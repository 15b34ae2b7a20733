import TorrentRemote.Proofs.Client.Concurrency
import TorrentRemote.Proofs.Client.Protocol
import Mathlib.Algebra.Group.Nat.Defs

/-!
# Lists are never older than the changes before them

The generation of the cache is the number of times it was emptied.  A listing keeps its list only if
the generation is still the one it read before it called the daemon, so a list in the cache was told
by the daemon after the cache was last emptied.  A change that succeeds empties the cache after its
last call, so a listing that starts later finds nothing older in the cache.

## Main definitions

* `Client.epoch` : how often the cache was emptied before a time.
* `Client.SnapshotAt` : the daemon tells its list at a time.
* `Client.Request.TookEffect` : a change that succeeded, or a purge.
* `Client.EmptiesLast` : the cache is emptied after every call.

## Main results

* `Client.Reaches.generation_eq` : the generation counts how often the cache was emptied.
* `Client.Reaches.exists_snapshot` : a list in the cache was told after it was last emptied.
* `Client.listed_after_changes` : a listing returns what the daemon told after all earlier changes.
-/

namespace TorrentRemote.Client

open Interaction

variable {σ : Type} {client : Client} {serves : Serves σ} {daemon : σ} {events : List Event}
  {s : System σ}

/-! ### Epochs -/

/-- Whether an event empties the cache. -/
def Event.isInvalidation : Event → Bool
  | stepped _ .invalidate _ => true
  | _ => false

/-- How often the cache was emptied before the time `t`. -/
def epoch (events : List Event) (t : Nat) : Nat := (events.take t).countP Event.isInvalidation

theorem epoch_mono (events : List Event) {t t' : Nat} (h : t ≤ t') :
    epoch events t ≤ epoch events t' :=
  (List.take_sublist_take_left h).countP_le

theorem epoch_le (events : List Event) (t : Nat) :
    epoch events t ≤ events.countP Event.isInvalidation :=
  (List.take_sublist t events).countP_le

theorem epoch_append {t : Nat} (h : t ≤ events.length) (more : List Event) :
    epoch (events ++ more) t = epoch events t := by
  rw [epoch, List.take_append_of_le_length h, epoch]

theorem epoch_take (events : List Event) {k t : Nat} (h : k ≤ t) :
    epoch (events.take t) k = epoch events k := by
  rw [epoch, List.take_take, Nat.min_eq_left h, epoch]

theorem epoch_succ {t i : Nat} (h : events[t]? = some (.stepped i .invalidate ())) :
    epoch events (t + 1) = epoch events t + 1 := by
  rw [epoch, List.take_add_one, h, List.countP_append]
  rfl

/-- A time before which the cache was emptied more often is later. -/
theorem lt_of_epoch_lt (events : List Event) {t t' : Nat}
    (h : epoch events t < epoch events t') : t < t' := by
  by_contra hle
  have := epoch_mono events (Nat.le_of_not_lt hle)
  omega

/-! ### Snapshots -/

/-- At the time `t` the daemon tells its list, which holds the torrents `all`. -/
def SnapshotAt (events : List Event) (t : Nat) (all : List Torrent) : Prop :=
  ∃ (i : Nat) (records : List Daemon.TorrentRecord),
    events[t]? = some (.stepped i (.call (.getTorrents none)) (.ok records)) ∧
      all = records.map Daemon.TorrentRecord.toTorrent

theorem SnapshotAt.lt_length {t : Nat} {all : List Torrent} (h : SnapshotAt events t all) :
    t < events.length := by
  obtain ⟨i, records, hevent, -⟩ := h
  exact (List.getElem?_eq_some_iff.1 hevent).1

theorem SnapshotAt.append {t : Nat} {all : List Torrent} (h : SnapshotAt events t all)
    (more : List Event) : SnapshotAt (events ++ more) t all := by
  have hlt := h.lt_length
  obtain ⟨i, records, hevent, hall⟩ := h
  exact ⟨i, records, by rw [List.getElem?_append_left hlt, hevent], hall⟩

theorem SnapshotAt.of_take {t n : Nat} {all : List Torrent}
    (h : SnapshotAt (events.take n) t all) : SnapshotAt events t all := by
  have := h.append (events.drop n)
  rwa [List.take_append_drop] at this

/-! ### The generation -/

/-- The generation counts how often the cache was emptied. -/
theorem Reaches.generation_eq (hreach : Reaches client serves daemon events s)
    (hcount : events.countP Event.isInvalidation < 2 ^ 64) :
    s.cache.generation.toNat = events.countP Event.isInvalidation := by
  induction hreach with
  | initial => rfl
  | @next events event s s' _ hnext ih =>
    rw [List.countP_append] at hcount ⊢
    have hbefore := ih (by omega)
    cases hnext with
    | start => simpa [Event.isInvalidation] using hbefore
    | finish => simpa [Event.isInvalidation] using hbefore
    | step _ htakes =>
      cases htakes with
      | invalidate =>
        simp only [List.countP_singleton, Event.isInvalidation, if_true] at hcount ⊢
        simp only [System.setTask_cache, Cache.invalidate, UInt64.toNat_add, UInt64.toNat_one]
        omega
      | store generation torrents =>
        have hkeep : (s.cache.store generation torrents).generation = s.cache.generation := by
          unfold Cache.store
          split <;> rfl
        simpa [Event.isInvalidation, hkeep] using hbefore
      | _ => simpa [Event.isInvalidation] using hbefore

/-- The generation that a listing reads tells its epoch. -/
theorem Reaches.generation_of_read (hreach : Reaches client serves daemon events s)
    (hcount : events.countP Event.isInvalidation < 2 ^ 64) {t i : Nat} {generation : UInt64}
    (h : events[t]? = some (.stepped i .readGeneration generation)) :
    generation.toNat = epoch events t := by
  obtain ⟨s₀, s₁, hbefore, hnext⟩ := hreach.exists_next h
  cases hnext with
  | step _ htakes =>
    cases htakes with
    | readGeneration =>
      exact hbefore.generation_eq (Nat.lt_of_le_of_lt (epoch_le events t) hcount)

/-! ### The list in the cache -/

theorem Request.action_keepsNothing {request : Request}
    (h : ∀ state category, request ≠ .torrents state category) :
    (request.action client).Asks Step.KeepsNothing := by
  have hcall : ∀ call : Daemon.Call, call.isReading → (Step.call call).KeepsNothing :=
    fun _ _ => trivial
  cases request with
  | torrents state category => exact absurd rfl (h state category)
  | add content option sideData =>
    exact (addTorrent_guarded client content option sideData).keepsNothing
  | modify hash option sideData => exact (modifyTorrent_guarded hash option sideData).keepsNothing
  | delete hashes deleteFiles => exact (deleteTorrents_guarded hashes deleteFiles).keepsNothing
  | purge => exact purgeCache_keepsNothing
  | rootPathExists folder => exact rootPathExists_asks hcall folder
  | status => exact status_asks hcall client
  | setSetting name value => exact setSetting_keepsNothing name value
  | getSetting name => exact getSetting_asks hcall name

/-- A list that is about to be kept was told after the generation had been read. -/
theorem Reaches.exists_snapshot_of_store (hreach : Reaches client serves daemon events s)
    (hcount : events.countP Event.isInvalidation < 2 ^ 64) {i : Nat} {generation : UInt64}
    {all : List Torrent} {request : Request} {next : Unit → Action request.Result}
    (hrunning : s.tasks i = .running request (.ask (.store generation all) next)) :
    ∃ t, SnapshotAt events t all ∧ generation.toNat ≤ epoch events t := by
  have hleads : Leads (request.action client) (history events i)
      (.ask (.store generation all) next) := by
    have hfollows := hreach.follows i
    rw [hrunning] at hfollows
    exact hfollows.1
  by_cases hlisting : ∃ state category, request = .torrents state category
  · obtain ⟨state, category, rfl⟩ := hlisting
    obtain ⟨records, hall, hhistory⟩ := leads_torrents_store hleads
    obtain ⟨t, hread, -, hafter⟩ := exists_of_history_eq [_] hhistory
    obtain ⟨n, hcall, -, -⟩ := exists_of_history_eq [] hafter
    rw [List.getElem?_drop] at hcall
    refine ⟨t + 1 + n, ⟨i, records, hcall, hall⟩, ?_⟩
    rw [hreach.generation_of_read hcount hread]
    exact epoch_mono events (by omega)
  · have hasks : (request.action client).Asks Step.KeepsNothing :=
      Request.action_keepsNothing fun state category heq => hlisting ⟨state, category, heq⟩
    exact (hasks.of_leads hleads).1.elim

/-- A list in the cache was told by the daemon after the cache was last emptied. -/
theorem Reaches.exists_snapshot (hreach : Reaches client serves daemon events s)
    (hcount : events.countP Event.isInvalidation < 2 ^ 64) {all : List Torrent}
    (hcached : s.cache.torrents = some all) :
    ∃ t, SnapshotAt events t all ∧ epoch events t = events.countP Event.isInvalidation := by
  induction hreach generalizing all with
  | initial => cases hcached
  | @next events event s s' hbefore hnext ih =>
    rw [List.countP_append] at hcount
    have hcount' : events.countP Event.isInvalidation < 2 ^ 64 := by omega
    -- An event that empties nothing leaves a snapshot in its epoch.
    have hlater : event.isInvalidation = false → ∀ t, SnapshotAt events t all →
        epoch events t = events.countP Event.isInvalidation →
        ∃ t, SnapshotAt (events ++ [event]) t all ∧
          epoch (events ++ [event]) t = (events ++ [event]).countP Event.isInvalidation := by
      intro hkind t hsnapshot hepoch
      refine ⟨t, hsnapshot.append _, ?_⟩
      rw [epoch_append (Nat.le_of_lt hsnapshot.lt_length), hepoch, List.countP_append,
        List.countP_singleton, hkind]
      rfl
    cases hnext with
    | start =>
      obtain ⟨t, hsnapshot, hepoch⟩ := ih hcount' hcached
      exact hlater rfl t hsnapshot hepoch
    | finish =>
      obtain ⟨t, hsnapshot, hepoch⟩ := ih hcount' hcached
      exact hlater rfl t hsnapshot hepoch
    | step hrunning htakes =>
      cases htakes with
      | invalidate => cases hcached
      | store generation torrents =>
        simp only [System.setTask_cache, Cache.store] at hcached
        split at hcached
        · rename_i heq
          cases hcached
          obtain ⟨t, hsnapshot, hle⟩ := hbefore.exists_snapshot_of_store hcount' hrunning
          rw [← heq, hbefore.generation_eq hcount'] at hle
          exact hlater rfl t hsnapshot (Nat.le_antisymm (epoch_le events t) hle)
        · obtain ⟨t, hsnapshot, hepoch⟩ := ih hcount' hcached
          exact hlater rfl t hsnapshot hepoch
      | _ =>
        obtain ⟨t, hsnapshot, hepoch⟩ := ih hcount' hcached
        exact hlater rfl t hsnapshot hepoch

/-- A list found in the cache was told after the cache had last been emptied by then. -/
theorem Reaches.exists_snapshot_of_read (hreach : Reaches client serves daemon events s)
    (hcount : events.countP Event.isInvalidation < 2 ^ 64) {t i : Nat} {all : List Torrent}
    (h : events[t]? = some (.stepped i .readCache (some all))) :
    ∃ k, k < t ∧ SnapshotAt events k all ∧ epoch events k = epoch events t := by
  obtain ⟨s₀, s₁, hbefore, hnext⟩ := hreach.exists_next h
  cases hnext with
  | step _ htakes =>
    obtain ⟨k, hsnapshot, hepoch⟩ := hbefore.exists_snapshot
      (Nat.lt_of_le_of_lt (epoch_le events t) hcount) htakes.eq_of_readCache.symm
    have hlt := hsnapshot.lt_length
    rw [List.length_take] at hlt
    refine ⟨k, by omega, hsnapshot.of_take, ?_⟩
    rw [← epoch_take events (by omega : k ≤ t), hepoch, epoch]

/-! ### Listings and changes -/

/-- What a listing returns is the filtered list of a snapshot that is not from before the last
time the cache was emptied ahead of its start. -/
theorem Reaches.exists_snapshot_of_returned (hreach : Reaches client serves daemon events s)
    (hcount : events.countP Event.isInvalidation < 2 ^ 64) {i b e : Nat}
    {state : Option TorrentState} {category : Option String} {listed : List Torrent}
    (hstart : events[b]? = some (.started i (.torrents state category)))
    (hreturn : events[e]? = some (.returned i (.torrents state category) (.ok listed))) :
    ∃ k all, k < e ∧ SnapshotAt events k all ∧
      listed = all.filter (fun torrent => torrent.matchesFilter state category) ∧
      epoch events b ≤ epoch events k := by
  have hstep : ∀ {t : Nat} {step : Step} {result : step.Result},
      (events.take e)[t]? = some (.stepped i step result) →
        t < e ∧ events[t]? = some (.stepped i step result) ∧ b ≤ t := by
    intro t step result ht
    have hlt : t < e := by
      have := (List.getElem?_eq_some_iff.1 ht).1
      rw [List.length_take] at this
      omega
    rw [List.getElem?_take_of_lt hlt] at ht
    exact ⟨hlt, ht, hreach.le_of_started hstart ht rfl⟩
  obtain ⟨all, hlisted, hhistory | ⟨generation, records, hall, hhistory⟩⟩ :=
    leads_torrents_ok (hreach.leads_of_returned hreturn)
  · obtain ⟨t, hread, -, -⟩ := exists_of_history_eq [] hhistory
    obtain ⟨hte, hread, hbt⟩ := hstep hread
    obtain ⟨k, hkt, hsnapshot, hepoch⟩ := hreach.exists_snapshot_of_read hcount hread
    exact ⟨k, all, by omega, hsnapshot, hlisted, hepoch ▸ epoch_mono events hbt⟩
  · obtain ⟨k, hcall, -, -⟩ := exists_of_history_eq [_, _] hhistory
    obtain ⟨hke, hcall, hbk⟩ := hstep hcall
    exact ⟨k, all, hke, ⟨i, records, hcall, hall⟩, hlisted, epoch_mono events hbk⟩

/-- A step that calls the daemon or empties the cache. -/
def Step.Acts : Step → Prop
  | call _ | invalidate => True
  | _ => False

/-- A change of the daemon that succeeded, or a purge of the cache.  Deleting no torrents is no
change. -/
def Request.TookEffect : (request : Request) → request.Result → Prop
  | add .., result | modify .., result => result = .ok ()
  | delete hashes _, result => hashes ≠ [] ∧ result = .ok ()
  | purge, _ => True
  | _, _ => False

/-- A history that empties the cache and acts no more. -/
def EmptiesLast (h : History) : Prop :=
  ∃ h₁ h₂, h = h₁ ++ ⟨.invalidate, ()⟩ :: h₂ ∧ ∀ entry ∈ h₂, ¬ entry.1.Acts

theorem emptiesLast_append (h : History) :
    EmptiesLast (h ++ [⟨.invalidate, ()⟩, ⟨.unlock, ()⟩]) :=
  ⟨h, [⟨.unlock, ()⟩], rfl, by simp [Step.Acts]⟩

theorem EmptiesLast.cons {h : History} (hempties : EmptiesLast h)
    (entry : (step : Step) × step.Result) : EmptiesLast (entry :: h) := by
  obtain ⟨h₁, h₂, rfl, hrest⟩ := hempties
  exact ⟨entry :: h₁, h₂, rfl, hrest⟩

/-- A change that succeeded has emptied the cache and acted no more. -/
theorem Request.TookEffect.emptiesLast {request : Request} {result : request.Result}
    (heffect : request.TookEffect result) {h : History}
    (hleads : Leads (request.action client) h (.done result)) : EmptiesLast h := by
  cases request with
  | add content option sideData =>
    rcases leads_addTorrent hleads with ⟨answer, -, herror, -⟩ | ⟨ref, h', -, rfl⟩
    · exact absurd heffect herror
    · exact ((emptiesLast_append h').cons _).cons _
  | modify hash option sideData =>
    rcases leads_modifyTorrent hleads with ⟨answer, -, herror, -⟩ | ⟨records, current, h', -, -, rfl⟩
    · exact absurd heffect herror
    · exact ((emptiesLast_append h').cons _).cons _
  | delete hashes deleteFiles =>
    obtain ⟨failures, h', -, -, rfl⟩ := leads_deleteTorrents hleads
    rw [if_neg heffect.1]
    exact (emptiesLast_append h').cons _
  | purge =>
    obtain ⟨⟨⟩, h', rfl, hdone⟩ := leads_ask_done_iff.1 hleads
    obtain ⟨rfl, -⟩ := leads_done_iff.1 hdone
    exact ⟨[], [], rfl, by simp⟩
  | _ => exact heffect.elim

theorem mem_history {t i : Nat} {step : Step} {result : step.Result}
    (h : events[t]? = some (.stepped i step result)) : ⟨step, result⟩ ∈ history events i :=
  List.mem_filterMap.2 ⟨_, List.mem_of_getElem? h, Event.stepOf?_eq_some_iff.2 rfl⟩

/-- What has emptied the cache last did so before its return and after it last acted. -/
theorem Reaches.exists_invalidation_of_emptiesLast (hreach : Reaches client serves daemon events s)
    {j a : Nat} {request : Request} {result : request.Result}
    (hreturn : events[a]? = some (.returned j request result))
    (hempties : EmptiesLast (history (events.take a) j)) :
    ∃ v, v < a ∧ events[v]? = some (.stepped j .invalidate ()) ∧
      ∀ d (step : Step) (answer : step.Result), events[d]? = some (.stepped j step answer) →
        step.Acts → d ≤ v := by
  obtain ⟨h₁, h₂, hhistory, hrest⟩ := hempties
  obtain ⟨v, hv, -, hafter⟩ := exists_of_history_eq h₁ hhistory
  have hva : v < a := by
    have := (List.getElem?_eq_some_iff.1 hv).1
    rw [List.length_take] at this
    omega
  refine ⟨v, hva, by rwa [List.getElem?_take_of_lt hva] at hv, fun d step answer hd hacts => ?_⟩
  by_contra hlt
  have hda : d < a := hreach.lt_of_returned hreturn hd
  have hdrop : ((events.take a).drop (v + 1))[d - (v + 1)]? = some (.stepped j step answer) := by
    rw [List.getElem?_drop, Nat.add_sub_cancel' (by omega), List.getElem?_take_of_lt hda, hd]
  exact hrest ⟨step, answer⟩ (hafter ▸ mem_history hdrop) hacts

/-- A change that succeeded has emptied the cache before its return and after it last acted. -/
theorem Reaches.exists_invalidation (hreach : Reaches client serves daemon events s) {j a : Nat}
    {request : Request} {result : request.Result}
    (hreturn : events[a]? = some (.returned j request result))
    (heffect : request.TookEffect result) :
    ∃ v, v < a ∧ events[v]? = some (.stepped j .invalidate ()) ∧
      ∀ d (step : Step) (answer : step.Result), events[d]? = some (.stepped j step answer) →
        step.Acts → d ≤ v :=
  hreach.exists_invalidation_of_emptiesLast hreturn
    (heffect.emptiesLast (hreach.leads_of_returned hreturn))

/-- **Lists are fresh.**  In every run in which the cache is emptied fewer than `2 ^ 64` times, a
list in the cache was told by the daemon after the cache was last emptied.  And whatever a listing
returns was told by the daemon after every change that had succeeded before the listing started had
done all it did at the daemon, and after every purge that had returned by then. -/
theorem listed_after_changes (client : Client) (serves : Serves σ) (daemon : σ)
    (events : List Event) (s : System σ) (hreach : Reaches client serves daemon events s)
    (hcount : events.countP Event.isInvalidation < 2 ^ 64) :
    (∀ all, s.cache.torrents = some all → ∃ k, SnapshotAt events k all ∧
      ∀ (v i : Nat), events[v]? = some (.stepped i .invalidate ()) → v < k) ∧
    (∀ (i b e : Nat) state category listed,
      events[b]? = some (.started i (.torrents state category)) →
      events[e]? = some (.returned i (.torrents state category) (.ok listed)) →
      ∃ k all, k < e ∧ SnapshotAt events k all ∧
        listed = all.filter (fun torrent => torrent.matchesFilter state category) ∧
        ∀ (j a : Nat) (request : Request) (result : request.Result),
          events[a]? = some (.returned j request result) → request.TookEffect result → a < b →
          ∀ (d : Nat) (step : Step) (answer : step.Result),
            events[d]? = some (.stepped j step answer) → step.Acts → d < k) := by
  constructor
  · intro all hcached
    obtain ⟨k, hsnapshot, hepoch⟩ := hreach.exists_snapshot hcount hcached
    refine ⟨k, hsnapshot, fun v i hv => lt_of_epoch_lt events ?_⟩
    have hle := epoch_le events (v + 1)
    rw [epoch_succ hv] at hle
    omega
  · intro i b e state category listed hstart hreturn
    obtain ⟨k, all, hke, hsnapshot, hlisted, hepoch⟩ :=
      hreach.exists_snapshot_of_returned hcount hstart hreturn
    refine ⟨k, all, hke, hsnapshot, hlisted, fun j a request result ha heffect hab => ?_⟩
    obtain ⟨v, hva, hv, hacts⟩ := hreach.exists_invalidation ha heffect
    have hvk : v < k := by
      have hle : epoch events (v + 1) ≤ epoch events b := epoch_mono events (by omega)
      rw [epoch_succ hv] at hle
      exact lt_of_epoch_lt events (by omega)
    exact fun d step answer hd hstep => Nat.lt_of_le_of_lt (hacts d step answer hd hstep) hvk

/-! ### A listing that a deletion overtakes -/

/-- A daemon that lists its torrents and removes those it is asked to remove. -/
inductive Removes : Serves (List Daemon.TorrentRecord)
  | list (stored : List Daemon.TorrentRecord) :
      Removes stored (.getTorrents none) (.ok stored) stored
  | remove (stored : List Daemon.TorrentRecord) (hashes : List String) (deleteFiles : Bool) :
      Removes stored (.removeTorrents hashes deleteFiles) (.ok ())
        (stored.filter fun record => record.hash ∉ hashes)

/-- The only torrent of the daemon at first. -/
def onlyRecord : Daemon.TorrentRecord :=
  ⟨"ab", "Film", 0, 0, 0, [], 0, 0, 0, 0, 0, 0, ⟨0, false⟩, ⟨0, false⟩, []⟩

/-- A client of that daemon. -/
def homeClient : Client := ⟨"home", ⟨"home", "transmission", "", "", "", false, []⟩⟩

/-- The listing 0 is told the torrent that the deletion 1 then removes, and wants to keep its list
after the deletion has emptied the cache.  The listing 2 starts later. -/
def overtakenRun : List Event :=
  [.started 0 (.torrents none none),
    .stepped 0 .readCache none,
    .stepped 0 .readGeneration 0,
    .stepped 0 (.call (.getTorrents none)) (.ok [onlyRecord]),
    .started 1 (.delete ["ab"] false),
    .stepped 1 .lock (),
    .stepped 1 (.call (.removeTorrents ["ab"] false)) (.ok ()),
    .stepped 1 .invalidate (),
    .stepped 0 (.store 0 [onlyRecord.toTorrent]) (),
    .stepped 1 .unlock (),
    .returned 1 (.delete ["ab"] false) (.ok ()),
    .started 2 (.torrents none none),
    .stepped 2 .readCache none,
    .stepped 2 .readGeneration 1,
    .stepped 2 (.call (.getTorrents none)) (.ok []),
    .stepped 2 (.store 1 []) (),
    .returned 2 (.torrents none none) (.ok []),
    .returned 0 (.torrents none none) (.ok [onlyRecord.toTorrent])]

theorem reaches_overtakenRun : ∃ s, Reaches homeClient Removes [onlyRecord] overtakenRun s := by
  have h₀ : Reaches homeClient Removes [onlyRecord] [] _ := .initial
  have h₁ := h₀.next (show Next _ _ _ (.started 0 (.torrents none none)) _ from .start rfl)
  have h₂ := h₁.next (show Next _ _ _ (.stepped 0 .readCache none) _ from .step rfl .readCache)
  have h₃ := h₂.next (show Next _ _ _ (.stepped 0 .readGeneration 0) _ from
    .step rfl .readGeneration)
  have h₄ := h₃.next (show Next _ _ _ (.stepped 0 (.call (.getTorrents none)) (.ok [onlyRecord])) _
    from .step rfl (.call (.list _)))
  have h₅ := h₄.next (show Next _ _ _ (.started 1 (.delete ["ab"] false)) _ from .start rfl)
  have h₆ := h₅.next (show Next _ _ _ (.stepped 1 .lock ()) _ from .step rfl (.lock rfl))
  have h₇ := h₆.next (show Next _ _ _
    (.stepped 1 (.call (.removeTorrents ["ab"] false)) (.ok ())) _
    from .step rfl (.call (.remove _ _ _)))
  have h₈ := h₇.next (show Next _ _ _ (.stepped 1 .invalidate ()) _ from .step rfl .invalidate)
  have h₉ := h₈.next (show Next _ _ _ (.stepped 0 (.store 0 [onlyRecord.toTorrent]) ()) _ from
    .step rfl (.store _ _))
  have h₁₀ := h₉.next (show Next _ _ _ (.stepped 1 .unlock ()) _ from .step rfl .unlock)
  have h₁₁ := h₁₀.next (show Next _ _ _ (.returned 1 (.delete ["ab"] false) (.ok ())) _ from
    .finish rfl)
  have h₁₂ := h₁₁.next (show Next _ _ _ (.started 2 (.torrents none none)) _ from .start rfl)
  have h₁₃ := h₁₂.next (show Next _ _ _ (.stepped 2 .readCache none) _ from .step rfl .readCache)
  have h₁₄ := h₁₃.next (show Next _ _ _ (.stepped 2 .readGeneration 1) _ from
    .step rfl .readGeneration)
  have h₁₅ := h₁₄.next (show Next _ _ _ (.stepped 2 (.call (.getTorrents none)) (.ok [])) _ from
    .step rfl (.call (.list [])))
  have h₁₆ := h₁₅.next (show Next _ _ _ (.stepped 2 (.store 1 []) ()) _ from
    .step rfl (.store _ _))
  have h₁₇ := h₁₆.next (show Next _ _ _ (.returned 2 (.torrents none none) (.ok [])) _ from
    .finish rfl)
  have h₁₈ := h₁₇.next (show Next _ _ _
    (.returned 0 (.torrents none none) (.ok [onlyRecord.toTorrent])) _ from .finish rfl)
  exact ⟨_, h₁₈⟩

/-- The later listing returns what the daemon told after the deletion had removed the torrent. -/
theorem listed_after_deletion :
    ∃ s, Reaches homeClient Removes [onlyRecord] overtakenRun s ∧
      overtakenRun.countP Event.isInvalidation < 2 ^ 64 ∧
      ∃ k all, k < 16 ∧ SnapshotAt overtakenRun k all ∧
        [] = all.filter (fun torrent => torrent.matchesFilter none none) ∧ 6 < k := by
  obtain ⟨s, hreach⟩ := reaches_overtakenRun
  have hcount : overtakenRun.countP Event.isInvalidation < 2 ^ 64 := by decide
  obtain ⟨k, all, hk, hsnapshot, hlisted, hlater⟩ :=
    (listed_after_changes _ _ _ _ s hreach hcount).2 2 11 16 none none [] rfl rfl
  have heffect : (Request.delete ["ab"] false).TookEffect (.ok ()) := ⟨by simp, rfl⟩
  have hdeleted := hlater 1 10 (.delete ["ab"] false) (.ok ()) rfl heffect (by decide) 6
    (.call (.removeTorrents ["ab"] false)) (.ok ()) rfl trivial
  exact ⟨s, hreach, hcount, k, all, hk, hsnapshot, hlisted, hdeleted⟩

end TorrentRemote.Client
