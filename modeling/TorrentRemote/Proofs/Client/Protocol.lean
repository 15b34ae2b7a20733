import TorrentRemote.Proofs.Client.Operation

/-!
# What operations do at the cache and under the lock

A listing looks into the cache, and if it finds nothing there it reads the generation, calls the
daemon and keeps the answer.  No other operation keeps a list.  A change makes all its calls while
it holds the lock, and it empties the cache before it gives the lock back, unless it found out
before its first writing call that there is nothing to write.

## Main definitions

* `Daemon.Call.isReading` : a call of the operations that change nothing.
* `Client.Guarded` : an operation that does all it does under the lock.

## Main results

* `Client.leads_torrents_ok` : the complete histories of a listing that succeeds.
* `Client.leads_torrents_store` : the history of a listing that is about to keep its list.
* `Client.leads_addTorrent`, `Client.leads_modifyTorrent`, `Client.leads_deleteTorrents` : the
  complete histories of changes.
-/

namespace TorrentRemote

/-- A call of the operations that change nothing.  All other calls are made by changes, also the one
that asks for a torrent by its hash. -/
def Daemon.Call.isReading : Daemon.Call → Bool
  | .getTorrents none | .getSession | .getStats | .freeSpace _ => true
  | _ => false

namespace Client

open Interaction

/-! ### Listing -/

theorem run_allTorrents :
    allTorrents.run = .ask .readCache fun
      | some torrents => .done (.ok torrents)
      | none => .ask .readGeneration fun generation => .ask (.call (.getTorrents none)) fun
        | .ok records => .ask (.store generation (List.map Daemon.TorrentRecord.toTorrent records))
            fun _ => .done (.ok (List.map Daemon.TorrentRecord.toTorrent records))
        | .error error => .done (.error error) := by
  rw [allTorrents, run_bind, run_step]
  refine congrArg (Interaction.ask Step.readCache) (funext fun cached => ?_)
  cases cached with
  | some torrents => rfl
  | none =>
    refine congrArg (Interaction.ask Step.readGeneration) (funext fun generation => ?_)
    refine congrArg (Interaction.ask (Step.call (.getTorrents none))) (funext fun answer => ?_)
    cases answer <;> rfl

theorem leads_allTorrents_ok {h : History} {all : List Torrent}
    (hleads : Leads allTorrents.run h (.done (.ok all))) :
    h = [⟨.readCache, some all⟩] ∨ ∃ (generation : UInt64) (records : List Daemon.TorrentRecord),
      all = records.map Daemon.TorrentRecord.toTorrent ∧
        h = [⟨.readCache, none⟩, ⟨.readGeneration, generation⟩,
          ⟨.call (.getTorrents none), Except.ok records⟩, ⟨.store generation all, ()⟩] := by
  rw [run_allTorrents] at hleads
  obtain ⟨cached, h₁, rfl, hcached⟩ := leads_ask_done_iff.1 hleads
  cases cached with
  | some torrents =>
    obtain ⟨rfl, hall⟩ := leads_done_iff.1 hcached
    cases hall
    exact .inl rfl
  | none =>
    obtain ⟨generation, h₂, rfl, hgeneration⟩ := leads_ask_done_iff.1 hcached
    obtain ⟨answer, h₃, rfl, hanswer⟩ := leads_ask_done_iff.1 hgeneration
    cases answer with
    | error error => cases (leads_done_iff.1 hanswer).2
    | ok records =>
      obtain ⟨⟨⟩, h₄, rfl, hstored⟩ := leads_ask_done_iff.1 hanswer
      obtain ⟨rfl, hall⟩ := leads_done_iff.1 hstored
      cases hall
      exact .inr ⟨generation, records, rfl, rfl⟩

/-- The complete histories of a listing that succeeds. -/
theorem leads_torrents_ok {state : Option TorrentState} {category : Option String} {h : History}
    {listed : List Torrent}
    (hleads : Leads (torrents state category).run h (.done (.ok listed))) :
    ∃ all, listed = all.filter (fun torrent => torrent.matchesFilter state category) ∧
      (h = [⟨.readCache, some all⟩] ∨
        ∃ (generation : UInt64) (records : List Daemon.TorrentRecord),
          all = records.map Daemon.TorrentRecord.toTorrent ∧
            h = [⟨.readCache, none⟩, ⟨.readGeneration, generation⟩,
              ⟨.call (.getTorrents none), Except.ok records⟩, ⟨.store generation all, ()⟩]) := by
  obtain ⟨h₁, h₂, all, rfl, hall, hfilter⟩ := leads_bind_ok_iff.1 hleads
  obtain ⟨rfl, hlisted⟩ := leads_done_iff.1 hfilter
  cases hlisted
  exact ⟨all, rfl, by simpa using leads_allTorrents_ok hall⟩

theorem leads_allTorrents_store {h : History} {generation : UInt64} {all : List Torrent}
    {next : Unit → Action (Except ClientError (List Torrent))}
    (hleads : Leads allTorrents.run h (.ask (.store generation all) next)) :
    ∃ records : List Daemon.TorrentRecord, all = records.map Daemon.TorrentRecord.toTorrent ∧
      h = [⟨.readCache, none⟩, ⟨.readGeneration, generation⟩,
        ⟨.call (.getTorrents none), Except.ok records⟩] := by
  rw [run_allTorrents] at hleads
  obtain ⟨-, heq⟩ | ⟨cached, h₁, rfl, hcached⟩ := leads_ask_iff.1 hleads
  · cases heq
  cases cached with
  | some torrents => cases (leads_done_iff.1 hcached).2
  | none =>
    obtain ⟨-, heq⟩ | ⟨g, h₂, rfl, hgeneration⟩ := leads_ask_iff.1 hcached
    · cases heq
    obtain ⟨-, heq⟩ | ⟨answer, h₃, rfl, hanswer⟩ := leads_ask_iff.1 hgeneration
    · cases heq
    cases answer with
    | error error => cases (leads_done_iff.1 hanswer).2
    | ok records =>
      obtain ⟨rfl, heq⟩ | ⟨⟨⟩, h₄, rfl, hstored⟩ := leads_ask_iff.1 hanswer
      · cases heq
        exact ⟨records, rfl, rfl⟩
      · cases (leads_done_iff.1 hstored).2

/-- A listing that is about to keep its list has found nothing in the cache, has read the
generation, and has got the list from the daemon, in this order. -/
theorem leads_torrents_store {state : Option TorrentState} {category : Option String}
    {h : History} {generation : UInt64} {all : List Torrent}
    {next : Unit → Action (Except ClientError (List Torrent))}
    (hleads : Leads (torrents state category).run h (.ask (.store generation all) next)) :
    ∃ records : List Daemon.TorrentRecord, all = records.map Daemon.TorrentRecord.toTorrent ∧
      h = [⟨.readCache, none⟩, ⟨.readGeneration, generation⟩,
        ⟨.call (.getTorrents none), Except.ok records⟩] := by
  rw [torrents, run_bind] at hleads
  rcases leads_bind_iff.1 hleads with ⟨y, hy, heq⟩ | ⟨h₁, h₂, result, -, -, hrest⟩
  · cases y with
    | done result => cases result <;> cases heq
    | ask step rest =>
      cases heq
      exact leads_allTorrents_store hy
  · cases result <;> cases (leads_done_iff.1 hrest).2

/-! ### Operations that change nothing -/

/-- A step that keeps no list in the cache. -/
def Step.KeepsNothing : Step → Prop
  | store .. => False
  | _ => True

theorem purgeCache_keepsNothing : purgeCache.Asks Step.KeepsNothing := ⟨trivial, fun _ => trivial⟩

section Reading

variable {p : Step → Prop}

theorem rootPathExists_asks (h : ∀ call : Daemon.Call, call.isReading → p (.call call))
    (folder : String) : (rootPathExists folder).Asks p := by
  unfold rootPathExists
  split
  · trivial
  · refine Asks.bind (asks_perform (h _ rfl)) fun result => ?_
    cases result <;> trivial

theorem status_asks (h : ∀ call : Daemon.Call, call.isReading → p (.call call))
    (client : Client) : client.status.run.Asks p := by
  refine asks_bind (asks_perform (h _ rfl)) fun session => ?_
  refine asks_bind (asks_perform (h _ rfl)) fun stats => ?_
  exact asks_bind ⟨h _ rfl, fun _ => trivial⟩ fun space => trivial

theorem getSetting_asks (h : ∀ call : Daemon.Call, call.isReading → p (.call call))
    (name : String) : (getSetting name).run.Asks p :=
  asks_bind trivial fun _ => asks_bind (asks_perform (h _ rfl)) fun _ => trivial

end Reading

/-! ### Operations under the lock -/

/-- A step that changes take while they hold the lock. -/
def Step.IsInside : Step → Prop
  | call c => c.isReading = false
  | invalidate => True
  | _ => False

/-- An operation that does all it does while it holds the lock. -/
def Guarded {α : Type} (operation : Operation α) : Prop :=
  ∃ body : Operation α, operation = exclusively body ∧ body.run.Asks Step.IsInside

theorem Guarded.keepsNothing {α : Type} {operation : Operation α} (h : Guarded operation) :
    operation.run.Asks Step.KeepsNothing := by
  obtain ⟨body, rfl, hbody⟩ := h
  refine asks_exclusively trivial (hbody.mono fun step hstep => ?_) trivial
  cases step with
  | store generation torrents => exact hstep
  | _ => trivial

theorem rename_inside (hash current new : String) :
    (rename hash current new).run.Asks Step.IsInside := by
  by_cases heq : current = new
  · rw [rename, if_pos heq]
    trivial
  · rw [rename, if_neg heq]
    exact asks_perform rfl

theorem applyChange_inside (hash : String) (change : Daemon.TorrentChange) :
    (applyChange hash change).run.Asks Step.IsInside := by
  by_cases hempty : change.isEmpty
  · rw [applyChange, if_pos hempty]
    trivial
  · rw [applyChange, if_neg hempty]
    exact asks_perform rfl

theorem setPaused_inside (hash : String) (paused : Bool) :
    (setPaused hash paused).run.Asks Step.IsInside := by
  cases paused <;> exact asks_perform rfl

theorem finishAdded_inside (added : Daemon.TorrentRef) (option : TorrentOption)
    (sideData : SideData) : (finishAdded added option sideData).run.Asks Step.IsInside :=
  asks_bind (rename_inside _ _ _) fun _ => applyChange_inside _ _

theorem addTorrent_guarded (client : Client) (content : List UInt8) (option : TorrentOption)
    (sideData : SideData) : Guarded (client.addTorrent content option sideData) := by
  refine ⟨_, rfl, asks_bind (asks_perform rfl) fun outcome => ?_⟩
  cases outcome with
  | duplicate existing => trivial
  | added added => exact asks_followedBy (finishAdded_inside added option sideData) trivial

/-- The three parts of a modification. -/
theorem applyModification_eq (current : Daemon.TorrentRecord) (option : TorrentOption)
    (sideData : Option SideData) :
    applyModification current option sideData =
      (match newName? current.name option sideData with
        | some name => rename current.hash current.name name
        | none => pure ()) >>= fun _ =>
      applyChange current.hash
        { limitChanges option with labels := newLabels? current.labels option } >>= fun _ =>
      match option.paused with
        | some paused => setPaused current.hash paused
        | none => pure () := by
  unfold applyModification
  cases newName? current.name option sideData <;> rfl

theorem applyModification_inside (current : Daemon.TorrentRecord) (option : TorrentOption)
    (sideData : Option SideData) :
    (applyModification current option sideData).run.Asks Step.IsInside := by
  rw [applyModification_eq]
  refine asks_bind ?_ fun _ => asks_bind (applyChange_inside _ _) fun _ => ?_
  · cases newName? current.name option sideData with
    | none => trivial
    | some name => exact rename_inside _ _ _
  · cases option.paused with
    | none => trivial
    | some paused => exact setPaused_inside _ _

theorem fetchOne_inside (hash : String) : (fetchOne hash).run.Asks Step.IsInside := by
  refine asks_bind (asks_perform rfl) fun records => ?_
  cases List.find? (fun record => Text.equalIgnoringAsciiCase record.hash hash) records <;> trivial

theorem modifyTorrent_guarded (hash : String) (option : TorrentOption)
    (sideData : Option SideData) : Guarded (modifyTorrent hash option sideData) := by
  refine ⟨_, rfl, asks_bind (fetchOne_inside hash) fun current => ?_⟩
  exact asks_followedBy (applyModification_inside current option sideData) trivial

theorem removeEach_inside (deleteFiles : Bool) (hashes : List String) :
    (removeEach deleteFiles hashes).Asks Step.IsInside := by
  induction hashes with
  | nil => trivial
  | cons hash hashes ih =>
    refine Asks.bind (asks_perform rfl) fun result => Asks.bind ih fun failures => ?_
    cases result <;> trivial

theorem deleteTorrents_guarded (hashes : List String) (deleteFiles : Bool) :
    Guarded (deleteTorrents hashes deleteFiles) := by
  refine ⟨_, rfl, Asks.bind (removeEach_inside deleteFiles hashes) fun failures => ?_⟩
  by_cases hnil : hashes = []
  · rw [if_neg (not_not.2 hnil)]
    trivial
  · rw [if_pos hnil]
    exact ⟨trivial, fun _ => trivial⟩

theorem run_setSetting_of_unknown {name : String} {error : ClientError}
    (hname : Setting.ofName name = .error error) (value : String) :
    (setSetting name value).run = .done (.error error) := by
  rw [setSetting, hname]
  rfl

theorem run_setSetting_of_refused {name value : String} {setting : Setting} {error : ClientError}
    (hname : Setting.ofName name = .ok setting)
    (hchange : settingChange setting value = .error error) :
    (setSetting name value).run = .done (.error error) := by
  rw [setSetting, hname]
  change ((ExceptT.mk (pure (settingChange setting value))) >>= _ : Operation Unit).run = _
  rw [hchange]
  rfl

theorem setSetting_of_accepted {name value : String} {setting : Setting}
    {change : Daemon.SessionChange} (hname : Setting.ofName name = .ok setting)
    (hchange : settingChange setting value = .ok change) :
    setSetting name value = exclusively (perform (.setSession change)) := by
  rw [setSetting, hname]
  change ((ExceptT.mk (pure (settingChange setting value))) >>= _ : Operation Unit) = _
  rw [hchange]
  rfl

/-- A setting is refused before anything is done, or its change is one call under the lock. -/
theorem setSetting_cases (name value : String) :
    (∃ error, (setSetting name value).run = .done (.error error)) ∨
      ∃ change, setSetting name value = exclusively (perform (.setSession change)) := by
  cases hname : Setting.ofName name with
  | error error => exact .inl ⟨error, run_setSetting_of_unknown hname value⟩
  | ok setting =>
    cases hchange : settingChange setting value with
    | error error => exact .inl ⟨error, run_setSetting_of_refused hname hchange⟩
    | ok change => exact .inr ⟨change, setSetting_of_accepted hname hchange⟩

theorem setSetting_keepsNothing (name value : String) :
    (setSetting name value).run.Asks Step.KeepsNothing := by
  obtain ⟨error, hdone⟩ | ⟨change, heq⟩ := setSetting_cases name value
  · rw [hdone]
    trivial
  · exact Guarded.keepsNothing ⟨_, heq, asks_perform rfl⟩

/-! ### Histories of changes -/

/-- The complete histories of adding a torrent: the daemon fails or knows the torrent already, or it
adds it and the cache is emptied at the end, whatever becomes of the rest. -/
theorem leads_addTorrent {client : Client} {content : List UInt8} {option : TorrentOption}
    {sideData : SideData} {h : History} {result : Except ClientError Unit}
    (hleads : Leads (client.addTorrent content option sideData).run h (.done result)) :
    (∃ answer : Except ClientError Daemon.AddOutcome, (∀ ref, answer ≠ .ok (.added ref)) ∧
      result ≠ .ok () ∧
      h = [⟨.lock, ()⟩, ⟨.call (.addTorrent (client.newTorrent content option)), answer⟩,
        ⟨.unlock, ()⟩]) ∨
    ∃ ref h', Leads (finishAdded ref option sideData).run h' (.done result) ∧
      h = ⟨.lock, ()⟩ ::
        ⟨.call (.addTorrent (client.newTorrent content option)), Except.ok (.added ref)⟩ ::
        (h' ++ [⟨.invalidate, ()⟩, ⟨.unlock, ()⟩]) := by
  obtain ⟨h', rfl, hop⟩ := leads_exclusively_iff.1 hleads
  rcases leads_operation_bind_iff.1 hop with
    ⟨error, rfl, hcall⟩ | ⟨h₁, h₂, outcome, rfl, hcall, hrest⟩
  · rw [leads_perform_iff.1 hcall]
    exact .inl ⟨.error error, nofun, nofun, rfl⟩
  · rw [leads_perform_iff.1 hcall]
    cases outcome with
    | duplicate existing =>
      obtain ⟨rfl, heq⟩ := leads_done_iff.1 hrest
      cases heq
      exact .inl ⟨.ok (.duplicate existing), nofun, nofun, rfl⟩
    | added ref =>
      obtain ⟨h₃, ⟨⟩, rfl, hfinish⟩ := leads_followedBy_iff.1 hrest
      exact .inr ⟨ref, h₃, hfinish, by simp⟩

/-- A torrent is read by one call.  Nothing comes of it exactly if the daemon fails or its answer
does not hold the torrent. -/
theorem leads_fetchOne {hash : String} {h : History}
    {fetched : Except ClientError Daemon.TorrentRecord}
    (hleads : Leads (fetchOne hash).run h (.done fetched)) :
    ∃ answer : Except ClientError (List Daemon.TorrentRecord),
      h = [⟨.call (.getTorrents (some [hash])), answer⟩] ∧
      ((∃ error, fetched = .error error ∧ ∀ records, answer = .ok records →
          ∀ record ∈ records, ¬ Text.equalIgnoringAsciiCase record.hash hash) ∨
        ∃ records current, fetched = .ok current ∧ answer = .ok records ∧
          List.find? (fun record => Text.equalIgnoringAsciiCase record.hash hash) records =
            some current) := by
  rcases leads_operation_bind_iff.1 hleads with
    ⟨error, rfl, hcall⟩ | ⟨h₁, h₂, records, rfl, hcall, hrest⟩
  · exact ⟨.error error, leads_perform_iff.1 hcall, .inl ⟨error, rfl, nofun⟩⟩
  · rw [leads_perform_iff.1 hcall]
    cases hfind : List.find? (fun record => Text.equalIgnoringAsciiCase record.hash hash) records
    with
    | none =>
      rw [hfind] at hrest
      obtain ⟨rfl, heq⟩ := leads_done_iff.1 hrest
      cases heq
      refine ⟨.ok records, rfl, .inl ⟨_, rfl, fun _ heq => ?_⟩⟩
      cases heq
      exact List.find?_eq_none.1 hfind
    | some current =>
      rw [hfind] at hrest
      obtain ⟨rfl, heq⟩ := leads_done_iff.1 hrest
      cases heq
      exact ⟨.ok records, rfl, .inr ⟨records, current, rfl, rfl, hfind⟩⟩

/-- The complete histories of modifying a torrent: the daemon fails or does not know the torrent, or
the torrent is found and the cache is emptied at the end, whatever becomes of the rest. -/
theorem leads_modifyTorrent {hash : String} {option : TorrentOption} {sideData : Option SideData}
    {h : History} {result : Except ClientError Unit}
    (hleads : Leads (modifyTorrent hash option sideData).run h (.done result)) :
    (∃ answer : Except ClientError (List Daemon.TorrentRecord),
      (∀ records, answer = .ok records →
        ∀ record ∈ records, ¬ Text.equalIgnoringAsciiCase record.hash hash) ∧
      result ≠ .ok () ∧
      h = [⟨.lock, ()⟩, ⟨.call (.getTorrents (some [hash])), answer⟩, ⟨.unlock, ()⟩]) ∨
    ∃ (records : List Daemon.TorrentRecord) (current : Daemon.TorrentRecord) (h' : History),
      List.find? (fun record => Text.equalIgnoringAsciiCase record.hash hash) records =
        some current ∧
      Leads (applyModification current option sideData).run h' (.done result) ∧
      h = ⟨.lock, ()⟩ :: ⟨.call (.getTorrents (some [hash])), Except.ok records⟩ ::
        (h' ++ [⟨.invalidate, ()⟩, ⟨.unlock, ()⟩]) := by
  obtain ⟨h', rfl, hop⟩ := leads_exclusively_iff.1 hleads
  rcases leads_operation_bind_iff.1 hop with
    ⟨error, rfl, hfetch⟩ | ⟨h₁, h₂, current, rfl, hfetch, hrest⟩
  · obtain ⟨answer, rfl, ⟨_, -, hmissing⟩ | ⟨_, _, heq, -⟩⟩ := leads_fetchOne hfetch
    · exact .inl ⟨answer, hmissing, nofun, rfl⟩
    · cases heq
  · obtain ⟨answer, rfl, ⟨_, heq, -⟩ | ⟨records, _, heq, rfl, hfind⟩⟩ := leads_fetchOne hfetch
    · cases heq
    · cases heq
      obtain ⟨h₃, ⟨⟩, rfl, hmodify⟩ := leads_followedBy_iff.1 hrest
      exact .inr ⟨records, current, h₃, hfind, hmodify, by simp⟩

/-- The complete histories of deleting torrents: one call for each, and the cache is emptied at the
end if there are any, whatever becomes of the calls. -/
theorem leads_deleteTorrents {hashes : List String} {deleteFiles : Bool} {h : History}
    {result : Except ClientError Unit}
    (hleads : Leads (deleteTorrents hashes deleteFiles).run h (.done result)) :
    ∃ failures h', Leads (removeEach deleteFiles hashes) h' (.done failures) ∧
      result = batchOutcome failures ∧
      h = ⟨.lock, ()⟩ ::
        (h' ++ ((if hashes = [] then [] else [⟨.invalidate, ()⟩]) ++ [⟨.unlock, ()⟩])) := by
  obtain ⟨h', rfl, hop⟩ := leads_exclusively_iff.1 hleads
  obtain ⟨h₁, h₂, failures, rfl, hremove, hrest⟩ := leads_bind_done_iff.1 hop
  refine ⟨failures, h₁, hremove, ?_⟩
  by_cases hnil : hashes = []
  · rw [if_neg (not_not.2 hnil)] at hrest
    obtain ⟨rfl, heq⟩ := leads_done_iff.1 hrest
    cases heq
    exact ⟨rfl, by simp [hnil]⟩
  · rw [if_pos hnil] at hrest
    obtain ⟨⟨⟩, h₃, rfl, hdone⟩ := leads_ask_done_iff.1 hrest
    obtain ⟨rfl, heq⟩ := leads_done_iff.1 hdone
    cases heq
    exact ⟨rfl, by simp [hnil]⟩

end Client

end TorrentRemote
