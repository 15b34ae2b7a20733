import TorrentRemote.Proofs.Client.Exclusion
import TorrentRemote.Proofs.Client.Freshness
import TorrentRemote.Proofs.Client.Retry

/-!
# Changes at the same time are changes one after another

The calls of a change follow each other with no call of another change between them, because they
are made under the lock.  So the changes of a run end as if they had been carried out one after
another in the order in which they got the lock, and none undoes what another has done: a change of
the category and a change of the tags of one torrent, each of which reads the labels and writes them
all, both take effect.

## Main definitions

* `Client.ChangeCallsAt` : a change calls the daemon at a time.
* `Client.HoldBoth` : labels that hold a category and tags that were asked for.

## Main results

* `Client.Reaches.changeCalls_contiguous` : the calls of a change are one block among those of all.
* `Client.InTurn.holder_eq_none` : the lock is free when all changes are done.
* `Client.relabel_twice` : two changes of labels, one after the other.
* `Client.changes_serialize` : changes end as if carried out one after another.
-/

namespace TorrentRemote.Client

open Interaction Daemon

variable {σ : Type} {client : Client} {server : Server σ} {serves : Serves σ} {daemon d d' : σ}
  {events : List Event} {s s' : System σ}

/-! ### Blocks of calls -/

/-- At the time `t` the task `i`, which carries out a change, calls the daemon. -/
def ChangeCallsAt (events : List Event) (t i : Nat) : Prop :=
  (∃ request, .started i request ∈ events ∧ request.IsChange) ∧
    ∃ (call : Call) (answer : Except ClientError call.Answer),
      events[t]? = some (.stepped i (.call call) answer)

/-- A task carries out one request. -/
theorem Reaches.eq_of_started (hreach : Reaches client serves daemon events s) {i : Nat}
    {request request' : Request} (h : .started i request ∈ events)
    (h' : .started i request' ∈ events) : request = request' := by
  obtain ⟨b, hb⟩ := List.getElem?_of_mem h
  obtain ⟨b', hb'⟩ := List.getElem?_of_mem h'
  have heq : b = b' := Nat.le_antisymm (hreach.le_of_started hb hb' rfl)
    (hreach.le_of_started hb' hb rfl)
  subst heq
  cases hb.symm.trans hb'
  rfl

/-- A change that is about to call the daemon holds the lock. -/
theorem Stage.holder_eq {completed : List Completed} {i : Nat} {request : Request} {call : Call}
    {next : (Step.call call).Result → Action request.Result}
    (h : Stage client server events s completed d i request (.ask (.call call) next))
    (hchange : request.IsChange) : s.holder = some i := by
  generalize hrest : Interaction.ask (Step.call call) next = rest at h
  cases h with
  | reading hreading => exact absurd hchange hreading
  | waiting =>
    rcases hchange.action_cases client with ⟨refused, hdone⟩ | ⟨body, haction, -⟩
    · cases hrest.trans hdone
    · cases hrest.trans haction
  | inside _ hholds => exact hholds
  | ended => cases hrest

/-- The task of a change that calls the daemon is the last that got the lock. -/
theorem Reaches.lockOrder_of_changeCallsAt (hreach : Reaches client serves daemon events s)
    (hobeys : serves.Obeys server) {t i : Nat} (h : ChangeCallsAt events t i) :
    ∃ earlier, lockOrder (events.take t) = earlier ++ [i] := by
  obtain ⟨⟨request, hstarted, hchange⟩, call, answer, hevent⟩ := h
  obtain ⟨s₀, s₁, hbefore, hnext⟩ := hreach.exists_next hevent
  obtain ⟨completed, d, hturn⟩ := hbefore.exists_inTurn hobeys
  cases hnext with
  | @step _ request' _ next _ _ hrunning htakes =>
    obtain ⟨hstarted', hstage⟩ := hturn.stage hrunning
    obtain rfl := hreach.eq_of_started hstarted (List.mem_of_mem_take hstarted')
    refine ⟨completed.map Completed.task, ?_⟩
    rw [hturn.order, hstage.holder_eq hchange]
    rfl

theorem lockOrder_take_mono (events : List Event) {t t' : Nat} (h : t ≤ t') :
    lockOrder (events.take t) <+: lockOrder (events.take t') := by
  obtain ⟨more, hmore⟩ := List.take_prefix_take_left (l := events) h
  exact ⟨lockOrder more, by rw [← lockOrder_append, hmore]⟩

/-- **The calls of a change are one block** among the calls of all changes. -/
theorem Reaches.changeCalls_contiguous (hreach : Reaches client serves daemon events s)
    (hobeys : serves.Obeys server) {i j t₁ t₂ t₃ : Nat} (h₁₂ : t₁ ≤ t₂) (h₂₃ : t₂ ≤ t₃)
    (h₁ : ChangeCallsAt events t₁ i) (h₂ : ChangeCallsAt events t₂ j)
    (h₃ : ChangeCallsAt events t₃ i) : j = i := by
  obtain ⟨completed, d, hturn⟩ := hreach.exists_inTurn hobeys
  obtain ⟨earlier₁, heq₁⟩ := hreach.lockOrder_of_changeCallsAt hobeys h₁
  obtain ⟨earlier₂, heq₂⟩ := hreach.lockOrder_of_changeCallsAt hobeys h₂
  obtain ⟨earlier₃, heq₃⟩ := hreach.lockOrder_of_changeCallsAt hobeys h₃
  have hnodup : (lockOrder (events.take t₃)).Nodup := by
    have happend := lockOrder_append (events.take t₃) (events.drop t₃)
    rw [List.take_append_drop] at happend
    exact (List.nodup_append.1 (happend ▸ hturn.nodup)).1
  obtain ⟨between, hbetween⟩ := lockOrder_take_mono events h₂₃
  have hmem : i ∈ lockOrder (events.take t₂) :=
    (lockOrder_take_mono events h₁₂).subset (heq₁ ▸ by simp)
  -- If another task had got the lock in between, the first would have got it twice.
  rcases List.eq_nil_or_concat between with rfl | ⟨init, last, rfl⟩
  · rw [List.append_nil, heq₂, heq₃] at hbetween
    exact List.singleton_inj.1 (List.append_inj_right' hbetween rfl)
  · rw [heq₃, List.concat_eq_append, ← List.append_assoc] at hbetween
    obtain rfl : last = i := List.singleton_inj.1 (List.append_inj_right' hbetween rfl)
    rw [heq₃, ← List.append_inj_left' hbetween rfl] at hnodup
    exact absurd rfl ((List.nodup_append.1 hnodup).2.2 last (List.mem_append_left _ hmem) last
      (List.mem_singleton.2 rfl))

/-- Only changes get the lock, and only those that do something. -/
theorem Reaches.exists_underLock_of_mem_lockOrder (hreach : Reaches client serves daemon events s)
    (hobeys : serves.Obeys server) {i : Nat} (h : i ∈ lockOrder events) : ∃ request body,
      .started i request ∈ events ∧ request.action client = underLock body := by
  obtain ⟨event, hmem, hlocked⟩ := List.mem_filterMap.1 h
  obtain ⟨t, hevent⟩ := List.getElem?_of_mem hmem
  obtain ⟨s₀, s₁, hbefore, hnext⟩ := hreach.exists_next hevent
  obtain ⟨completed, d, hturn⟩ := hbefore.exists_inTurn hobeys
  cases hnext with
  | start => cases hlocked
  | finish => cases hlocked
  | @step j request step next _ _ hrunning htakes =>
    cases htakes with
    | lock =>
      cases hlocked
      have hfollows := hbefore.follows i
      rw [hrunning] at hfollows
      have hstarted := List.mem_of_mem_take (hturn.stage hrunning).1
      by_cases hchange : request.IsChange
      · rcases hchange.action_cases client with ⟨refused, hdone⟩ | ⟨body, haction, -⟩
        · cases (leads_done_iff.1 (hdone ▸ hfollows.1)).2
        · exact ⟨request, body, hstarted, haction⟩
      · exact ((request.action_reads hchange client).of_leads hfollows.1).1.elim
    | _ => cases hlocked

/-- If all changes that have started are completed or were refused, the lock is free. -/
theorem InTurn.holder_eq_none {completed : List Completed}
    (h : InTurn client server daemon events s completed d)
    (hreach : Reaches client serves daemon events s) (hobeys : serves.Obeys server)
    (hall : ∀ i request, .started i request ∈ events → request.IsChange →
      i ∈ completed.map Completed.task ∨ ∃ result, request.action client = .done result) :
    s.holder = none := by
  cases hholder : s.holder with
  | none => rfl
  | some i =>
    have horder := h.order
    have hnodup := h.nodup
    rw [hholder] at horder
    have hmem : i ∈ lockOrder events := by simp [horder]
    obtain ⟨request, body, hstarted, haction⟩ := hreach.exists_underLock_of_mem_lockOrder hobeys hmem
    rcases hall i request hstarted (Request.isChange_of_action_eq haction) with
      hcompleted | ⟨result, hdone⟩
    · rw [horder] at hnodup
      exact absurd rfl ((List.nodup_append.1 hnodup).2.2 i hcompleted i (by simp))
    · cases haction.symm.trans hdone

/-- A modification that has returned was carried out. -/
theorem InTurn.mem_of_returned_modify {completed : List Completed}
    (h : InTurn client server daemon events s completed d) {i : Nat} {hash : String}
    {option : TorrentOption} {sideData : Option SideData} {result : Except ClientError Unit}
    (hreturned : .returned i (.modify hash option sideData) result ∈ events) :
    ⟨i, .modify hash option sideData, result⟩ ∈ completed := by
  rcases h.returned i (.modify hash option sideData) result hreturned trivial with hin | hrefused
  · exact hin
  · obtain ⟨body, haction, -⟩ := (modifyTorrent_guarded hash option sideData).exists_underLock
    cases haction.symm.trans hrefused

/-! ### Two changes of labels -/

section Labels

variable {stored : σ → List TorrentRecord} {record : TorrentRecord} {hash : String}
  {before after : Cache × σ}

/-- A change of labels replaces the labels and nothing else. -/
theorem stored_relabel (hserver : server.StoresAsAsked stored)
    (hdistinct : DistinctHashes (stored before.2)) (hmem : record ∈ stored before.2)
    (hhash : record.hasHash hash) {category : Option String} {tags : Option (List String)}
    (hends : Ends server (modifyTorrent hash { category, tags } none).run before (.ok ()) after) :
    stored after.2 =
      updateNamed [record.hash] (fun _ => changed { category, tags } record) (stored before.2) := by
  rw [modifyTorrent, ends_exclusively_iff] at hends
  obtain ⟨current, s₁, hfetch, hends⟩ := ends_bind_ok_iff.1 hends
  obtain ⟨rfl, hsame⟩ := eq_of_fetchOne hserver hdistinct hmem hhash hfetch
  obtain ⟨s₂, hmodify, rfl⟩ := ends_followedBy_invalidate_iff.1 hends
  have hstored : stored s₁.2 = updateNamed [current.hash] (fun _ => current) (stored before.2) := by
    rw [hsame, updateNamed_self hdistinct hmem]
  obtain ⟨status, rfl, hafter⟩ := stored_applyModification hserver hstored hmodify
  exact hafter

/-- Labels that hold a category and tags that were asked for. -/
structure HoldBoth (category : String) (tags labels : List String) : Prop where
  category (h : category ≠ "" ∨ ∀ tag ∈ tags, Labels.IsTag tag) :
    Labels.categoryOf labels = category
  tags : Labels.tagsOf labels = Labels.tagsOf (tags.filter (· != ""))

/-- Tags that are changed after the category leave the category. -/
theorem holdBoth_of_category_first (category : String) (tags : List String)
    (record : TorrentRecord) : HoldBoth category tags
      (changed { tags := some tags } (changed { category := some category } record)).labels := by
  have hlabels : (changed { tags := some tags }
      (changed { category := some category } record)).labels = Labels.build category tags := by
    change Labels.build (Labels.categoryOf (Labels.build category (Labels.tagsOf record.labels)))
      tags = _
    rw [Labels.categoryOf_build category fun tag htag => (Labels.mem_tagsOf.1 htag).2]
  rw [hlabels]
  refine ⟨fun h => ?_, Labels.tagsOf_build_eq category tags⟩
  rcases h with hne | htags
  · exact Labels.categoryOf_build_of_ne hne tags
  · exact Labels.categoryOf_build category htags

/-- A category that is changed after the tags leaves the tags. -/
theorem holdBoth_of_tags_first (category : String) (tags : List String)
    (record : TorrentRecord) : HoldBoth category tags
      (changed { category := some category } (changed { tags := some tags } record)).labels := by
  have hlabels : (changed { category := some category }
      (changed { tags := some tags } record)).labels =
        Labels.build category (Labels.tagsOf (tags.filter (· != ""))) := by
    change Labels.build category
      (Labels.tagsOf (Labels.build (Labels.categoryOf record.labels) tags)) = _
    rw [Labels.tagsOf_build_eq]
  have htag : ∀ tag ∈ Labels.tagsOf (tags.filter (· != "")), Labels.IsTag tag :=
    fun tag htag => (Labels.mem_tagsOf.1 htag).2
  rw [hlabels]
  refine ⟨fun _ => Labels.categoryOf_build category htag, ?_⟩
  rw [Labels.tagsOf_build category htag, Labels.filter_tagsOf, List.filter_filter]
  simp only [Bool.and_self]

end Labels

/-! ### Two changes one after the other -/

/-- What comes first is carried out first. -/
theorem carryOut_cons (task : Nat) (request : Request) (requests : List (Nat × Request)) :
    carryOut server client ((task, request) :: requests) = (do
      let result ← run server (request.action client)
      let rest ← carryOut server client requests
      pure (⟨task, request, result⟩ :: rest)) := by
  simp only [carryOut, List.mapM_cons, bind_assoc, pure_bind]

theorem exists_ends_of_carryOut_cons {task : Nat} {request : Request}
    {requests : List (Nat × Request)} {cache cache' : Cache} {completed : List Completed}
    (h : ((carryOut server client ((task, request) :: requests)).run cache).run d =
      ((completed, cache'), d')) :
    ∃ (result : request.Result) (s₁ : Cache × σ) (rest : List Completed),
      completed = ⟨task, request, result⟩ :: rest ∧
      Ends server (request.action client) (cache, d) result s₁ ∧
      ((carryOut server client requests).run s₁.1).run s₁.2 = ((rest, cache'), d') := by
  rw [carryOut_cons] at h
  cases h
  exact ⟨_, (_, _), _, rfl, rfl, rfl⟩

/-- Two changes of the labels of a torrent, carried out one after the other, succeed if no call
fails, and if they succeed the second finds what the first has left. -/
theorem relabel_twice {stored : σ → List TorrentRecord} (hserver : server.StoresAsAsked stored)
    (hdistinct : DistinctHashes (stored d)) {record : TorrentRecord} (hmem : record ∈ stored d)
    {hash hash' : String} (hhash : record.hasHash hash) (hhash' : record.hasHash hash') {i j : Nat}
    {category category' : Option String} {tags tags' : Option (List String)}
    {result result' : Except ClientError Unit}
    (h : EndInTurn server client d
      [⟨i, .modify hash { category, tags } none, result⟩,
        ⟨j, .modify hash' { category := category', tags := tags' } none, result'⟩] d') :
    (server.Answers → result = .ok () ∧ result' = .ok ()) ∧
    (result = .ok () → result' = .ok () → stored d' = updateNamed [record.hash] (fun _ =>
      changed { category := category', tags := tags' } (changed { category, tags } record))
        (stored d)) := by
  obtain ⟨cache', hrun⟩ := h {}
  obtain ⟨_, s₁, _, heq, hfirst, hrun⟩ := exists_ends_of_carryOut_cons hrun
  cases heq
  obtain ⟨_, s₂, _, heq, hsecond, hrun⟩ := exists_ends_of_carryOut_cons hrun
  cases heq
  obtain rfl : s₂.2 = d' := congrArg Prod.snd hrun
  -- Where the second change finds the torrent.
  have hbetween : result = .ok () → stored s₁.2 =
      updateNamed [record.hash] (fun _ => changed { category, tags } record) (stored d) := by
    rintro rfl
    exact stored_relabel hserver hdistinct hmem hhash hfirst
  have hdistinct₁ : result = .ok () → DistinctHashes (stored s₁.2) := fun hok => by
    rw [hbetween hok]
    exact distinctHashes_updateNamed hdistinct hmem rfl
  have hmem₁ : result = .ok () → changed { category, tags } record ∈ stored s₁.2 := fun hok => by
    rw [hbetween hok]
    exact mem_updateNamed hmem _
  constructor
  · intro hanswers
    have hmem₀ : record ∈ stored (({}, d) : Cache × σ).2 := hmem
    obtain ⟨_, hends⟩ := exists_ends_modifyTorrent hserver hanswers hdistinct hmem₀ hhash
      { category, tags } none
    have hok : result = .ok () := hfirst.value_eq.trans hends.value_eq.symm
    obtain ⟨_, hends'⟩ := exists_ends_modifyTorrent hserver hanswers (hdistinct₁ hok) (hmem₁ hok)
      hhash' { category := category', tags := tags' } none
    exact ⟨hok, hsecond.value_eq.trans hends'.value_eq.symm⟩
  · rintro hok rfl
    rw [stored_relabel hserver (hdistinct₁ hok) (hmem₁ hok) hhash' hsecond, hbetween hok]
    exact updateNamed_updateNamed (changed { category, tags } record).hasHash_self (fun _ => _) _

/-- Two tasks that are all that have completed a change, in either order. -/
theorem eq_pair_or_eq_pair {completed : List Completed} {a b : Completed}
    (hnodup : (completed.map Completed.task).Nodup) (hne : a.task ≠ b.task) (ha : a ∈ completed)
    (hb : b ∈ completed) (hall : ∀ c ∈ completed, c.task = a.task ∨ c.task = b.task) :
    completed = [a, b] ∨ completed = [b, a] := by
  have hpair : [a, b].Nodup := List.Nodup.of_map Completed.task (by simpa using hne)
  have hperm : completed.Perm [a, b] := by
    refine (List.perm_ext_iff_of_nodup (.of_map _ hnodup) hpair).2 fun c => ?_
    rw [List.mem_pair]
    constructor
    · intro hc
      exact (hall c hc).imp (List.inj_on_of_nodup_map hnodup hc ha)
        (List.inj_on_of_nodup_map hnodup hc hb)
    · rintro (rfl | rfl)
      · exact ha
      · exact hb
  obtain ⟨x, y, rfl⟩ := List.length_eq_two.1 hperm.length_eq
  rcases List.mem_pair.1 ha with rfl | rfl
  · rcases List.mem_pair.1 hb with rfl | rfl
    · exact absurd rfl hne
    · exact .inl rfl
  · rcases List.mem_pair.1 hb with rfl | rfl
    · exact .inr rfl
    · exact absurd rfl hne

/-- **Changes at the same time are changes one after another.**  At a daemon that answers the calls
of changes as a function of its state, and that other calls leave as it is, in every run:

The calls of a change are one block among the calls of all changes, with the call that reads a
torrent to be modified.

Changes get the lock once each, and they have ended as if they had been carried out one after
another in this order.  A change that has returned is among them with its result, unless it was
refused before it did anything.  Whenever the lock is free, as it is if all changes that have started
have returned, the daemon is as the last of them has left it.

If the only changes of a run are one of the category and one of the tags of the same torrent, at a
daemon that stores what it is asked to store, both succeed if no call fails, and if they succeed the
torrent has the category and the tags and is otherwise what it was.  Empty tags are left out, and
tags that look like the label of a category are no tags. -/
theorem changes_serialize (client : Client) (serves : Serves σ) (server : Server σ) (daemon : σ)
    (events : List Event) (s : System σ) (hreach : Reaches client serves daemon events s)
    (hobeys : serves.Obeys server) :
    (∀ i j t₁ t₂ t₃, t₁ ≤ t₂ → t₂ ≤ t₃ → ChangeCallsAt events t₁ i → ChangeCallsAt events t₂ j →
      ChangeCallsAt events t₃ i → j = i) ∧
    (∃ completed d, (lockOrder events).Nodup ∧
      lockOrder events = completed.map Completed.task ++ s.holder.toList ∧
      EndInTurn server client daemon completed d ∧ (s.holder = none → s.daemon = d) ∧
      ((∀ i request, .started i request ∈ events → request.IsChange →
        ∃ result, .returned i request result ∈ events) → s.holder = none) ∧
      (∀ c ∈ completed, .started c.task c.request ∈ events) ∧
      ∀ (i : Nat) (request : Request) (result : request.Result),
        .returned i request result ∈ events → request.IsChange →
          ⟨i, request, result⟩ ∈ completed ∨ request.action client = .done result) ∧
    ∀ (stored : σ → List TorrentRecord) (record : TorrentRecord) (hash hash' category : String)
      (tags : List String) (i j : Nat) (result result' : Except ClientError Unit),
      server.StoresAsAsked stored → DistinctHashes (stored daemon) → record ∈ stored daemon →
      record.hasHash hash → record.hasHash hash' → i ≠ j →
      (∀ k request, .started k request ∈ events → request.IsChange → k = i ∨ k = j) →
      .returned i (.modify hash { category := some category } none) result ∈ events →
      .returned j (.modify hash' { tags := some tags } none) result' ∈ events →
      (server.Answers → result = .ok () ∧ result' = .ok ()) ∧
      (result = .ok () → result' = .ok () → ∃ labels, HoldBoth category tags labels ∧
        stored s.daemon = (stored daemon).map fun other =>
          if other = record then { record with labels } else other) := by
  obtain ⟨completed, d, hturn⟩ := hreach.exists_inTurn hobeys
  refine ⟨fun i j t₁ t₂ t₃ => hreach.changeCalls_contiguous hobeys,
    ⟨completed, d, hturn.nodup, hturn.order, hturn.ends, hturn.free, fun hall => ?_,
      fun c hc => (hturn.started c hc).1, hturn.returned⟩, ?_⟩
  · refine hturn.holder_eq_none hreach hobeys fun i request hstarted hchange => ?_
    obtain ⟨result, hreturned⟩ := hall i request hstarted hchange
    exact (hturn.returned i request result hreturned hchange).imp
      (fun hmem => List.mem_map.2 ⟨_, hmem, rfl⟩) (fun hdone => ⟨result, hdone⟩)
  intro stored record hash hash' category tags i j result result' hserver hdistinct hmem hhash
    hhash' hne honly hi hj
  have hmemi := hturn.mem_of_returned_modify hi
  have hmemj := hturn.mem_of_returned_modify hj
  have hfree : s.holder = none := by
    refine hturn.holder_eq_none hreach hobeys fun k request hstarted hchange => .inl ?_
    rcases honly k request hstarted hchange with rfl | rfl
    · exact List.mem_map.2 ⟨_, hmemi, rfl⟩
    · exact List.mem_map.2 ⟨_, hmemj, rfl⟩
  have hnodup : (completed.map Completed.task).Nodup := by
    have := hturn.nodup
    rwa [hturn.order, hfree, Option.toList_none, List.append_nil] at this
  have hall : ∀ c ∈ completed, c.task = i ∨ c.task = j := fun c hc =>
    honly c.task c.request (hturn.started c hc).1 (hturn.started c hc).2
  rw [hturn.free hfree]
  rcases eq_pair_or_eq_pair hnodup hne hmemi hmemj hall with heq | heq
  · have htwice := relabel_twice hserver hdistinct hmem hhash hhash' (heq ▸ hturn.ends)
    refine ⟨htwice.1, fun hok hok' => ⟨_, holdBoth_of_category_first category tags record, ?_⟩⟩
    rw [htwice.2 hok hok', updateNamed_eq_map hdistinct hmem]
    rfl
  · have htwice := relabel_twice hserver hdistinct hmem hhash' hhash (heq ▸ hturn.ends)
    refine ⟨fun hanswers => (htwice.1 hanswers).symm,
      fun hok hok' => ⟨_, holdBoth_of_tags_first category tags record, ?_⟩⟩
    rw [htwice.2 hok' hok, updateNamed_eq_map hdistinct hmem]
    rfl

/-! ### A category and tags at the same time -/

/-- The daemon that is nothing but its torrents, as what happens at it. -/
def exactServes : Serves (List TorrentRecord) := fun d call answer d' =>
  (exactServer (fun _ => ⟨"", ""⟩) call).run d = (answer, d')

theorem exactServes_obeys : exactServes.Obeys (exactServer fun _ => ⟨"", ""⟩) where
  changes h _ := h
  reads {d _ call _} h hreading := by
    cases call with
    | getTorrents hashes =>
      cases hashes with
      | none =>
        cases h
        rfl
      | some hashes => cases hreading
    | getSession | getStats | freeSpace =>
      cases h
      rfl
    | _ => cases hreading

/-- The torrent with other labels. -/
def onlyRecordWith (labels : List String) : TorrentRecord := { onlyRecord with labels }

/-- The changes 0 and 1 start together.  The change 1 of the tags gets the lock first, and the
listing 2 runs between its calls.  Then the change 0 of the category finds the tags. -/
def relabellingRun : List Event :=
  [.started 0 (.modify "ab" { category := some "films" } none),
    .started 1 (.modify "AB" { tags := some ["hd"] } none),
    .stepped 1 .lock (),
    .started 2 (.torrents none none),
    .stepped 1 (.call (.getTorrents (some ["AB"]))) (.ok [onlyRecord]),
    .stepped 2 .readCache none,
    .stepped 2 .readGeneration 0,
    .stepped 2 (.call (.getTorrents none)) (.ok [onlyRecord]),
    .stepped 1 (.call (.setTorrents ["ab"] { labels := some ["hd"] })) (.ok ()),
    .stepped 1 .invalidate (),
    .stepped 1 .unlock (),
    .stepped 0 .lock (),
    .returned 1 (.modify "AB" { tags := some ["hd"] } none) (.ok ()),
    .stepped 0 (.call (.getTorrents (some ["ab"]))) (.ok [onlyRecordWith ["hd"]]),
    .stepped 0 (.call (.setTorrents ["ab"] { labels := some ["category:films", "hd"] })) (.ok ()),
    .stepped 0 .invalidate (),
    .stepped 0 .unlock (),
    .returned 0 (.modify "ab" { category := some "films" } none) (.ok ())]

theorem reaches_relabellingRun :
    ∃ s, Reaches homeClient exactServes [onlyRecord] relabellingRun s := by
  have h₀ : Reaches homeClient exactServes [onlyRecord] [] _ := .initial
  have h₁ := h₀.next (show Next _ _ _
    (.started 0 (.modify "ab" { category := some "films" } none)) _ from .start rfl)
  have h₂ := h₁.next (show Next _ _ _
    (.started 1 (.modify "AB" { tags := some ["hd"] } none)) _ from .start rfl)
  have h₃ := h₂.next (show Next _ _ _ (.stepped 1 .lock ()) _ from .step rfl (.lock rfl))
  have h₄ := h₃.next (show Next _ _ _ (.started 2 (.torrents none none)) _ from .start rfl)
  have h₅ := h₄.next (show Next _ _ _
    (.stepped 1 (.call (.getTorrents (some ["AB"]))) (.ok [onlyRecord])) _ from
    .step rfl (.call rfl))
  have h₆ := h₅.next (show Next _ _ _ (.stepped 2 .readCache none) _ from .step rfl .readCache)
  have h₇ := h₆.next (show Next _ _ _ (.stepped 2 .readGeneration 0) _ from
    .step rfl .readGeneration)
  have h₈ := h₇.next (show Next _ _ _ (.stepped 2 (.call (.getTorrents none)) (.ok [onlyRecord])) _
    from .step rfl (.call rfl))
  have h₉ := h₈.next (show Next _ _ _
    (.stepped 1 (.call (.setTorrents ["ab"] { labels := some ["hd"] })) (.ok ())) _ from
    .step rfl (.call rfl))
  have h₁₀ := h₉.next (show Next _ _ _ (.stepped 1 .invalidate ()) _ from .step rfl .invalidate)
  have h₁₁ := h₁₀.next (show Next _ _ _ (.stepped 1 .unlock ()) _ from .step rfl .unlock)
  have h₁₂ := h₁₁.next (show Next _ _ _ (.stepped 0 .lock ()) _ from .step rfl (.lock rfl))
  have h₁₃ := h₁₂.next (show Next _ _ _
    (.returned 1 (.modify "AB" { tags := some ["hd"] } none) (.ok ())) _ from .finish rfl)
  have h₁₄ := h₁₃.next (show Next _ _ _
    (.stepped 0 (.call (.getTorrents (some ["ab"]))) (.ok [onlyRecordWith ["hd"]])) _ from
    .step rfl (.call rfl))
  have h₁₅ := h₁₄.next (show Next _ _ _
    (.stepped 0 (.call (.setTorrents ["ab"] { labels := some ["category:films", "hd"] })) (.ok ()))
    _ from .step rfl (.call rfl))
  have h₁₆ := h₁₅.next (show Next _ _ _ (.stepped 0 .invalidate ()) _ from .step rfl .invalidate)
  have h₁₇ := h₁₆.next (show Next _ _ _ (.stepped 0 .unlock ()) _ from .step rfl .unlock)
  have h₁₈ := h₁₇.next (show Next _ _ _
    (.returned 0 (.modify "ab" { category := some "films" } none) (.ok ())) _ from .finish rfl)
  exact ⟨_, h₁₈⟩

/-- The torrent has the category and the tags in the end, and both changes have ended as one after
the other. -/
theorem holdBoth_relabellingRun :
    ∃ s, Reaches homeClient exactServes [onlyRecord] relabellingRun s ∧
      (exactServes.Obeys (exactServer fun _ => ⟨"", ""⟩)) ∧
      (∃ completed d, lockOrder relabellingRun = completed.map Completed.task ++ s.holder.toList ∧
        EndInTurn (exactServer fun _ => ⟨"", ""⟩) homeClient [onlyRecord] completed d) ∧
      ∃ labels, HoldBoth "films" ["hd"] labels ∧ s.daemon = [onlyRecordWith labels] := by
  obtain ⟨s, hreach⟩ := reaches_relabellingRun
  obtain ⟨-, ⟨completed, d, -, horder, hends, -⟩, hboth⟩ :=
    changes_serialize _ _ _ _ _ s hreach exactServes_obeys
  have honly : ∀ k request, .started k request ∈ relabellingRun → request.IsChange →
      k = 0 ∨ k = 1 := by
    intro k request hstarted hchange
    simp only [relabellingRun, List.mem_cons, Event.started.injEq, reduceCtorEq, List.not_mem_nil,
      or_false, false_or] at hstarted
    rcases hstarted with ⟨rfl, -⟩ | ⟨rfl, -⟩ | ⟨-, rfl⟩
    · exact .inl rfl
    · exact .inr rfl
    · exact hchange.elim
  obtain ⟨-, heffect⟩ := hboth id onlyRecord "ab" "AB" "films" ["hd"] 0 1 (.ok ()) (.ok ())
    (exactServer_storesAsAsked _) (by decide) (by simp) (by decide) (by decide) (by decide) honly
    (by simp [relabellingRun]) (by simp [relabellingRun])
  obtain ⟨labels, hlabels, hstored⟩ := heffect rfl rfl
  refine ⟨s, hreach, exactServes_obeys, ⟨completed, d, horder, hends⟩, labels, hlabels, ?_⟩
  simpa [onlyRecordWith] using hstored

end TorrentRemote.Client
