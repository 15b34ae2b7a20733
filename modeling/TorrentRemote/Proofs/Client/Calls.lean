import TorrentRemote.Proofs.Client.Caching
import TorrentRemote.Proofs.Daemon.Settings
import TorrentRemote.Proofs.Text.Base64

/-!
# The calls of modifications and additions

A modification first asks the daemon for the torrent, and an addition first adds it.  If nothing
comes of this call, it is the only one.  Otherwise all other calls are known from its answer, and
they are made one after another up to the first that fails.

## Main definitions

* `Client.performAll` : some calls, one after another.
* `Client.MadeInTurn` : planned calls were made up to the first that failed.
* `Client.modificationCalls`, `Client.additionCalls` : the calls that follow the first one.
* `Client.Fetches` : which torrent is modified.

## Main results

* `Client.applyModification_eq_performAll`, `Client.finishAdded_eq_performAll` : what follows the
  first call are the planned calls, one after another.
* `Client.modifyTorrent_calls`, `Client.addTorrent_calls` : all calls of a modification and of an
  addition, with the result and the cache.
-/

namespace TorrentRemote

open Daemon

/-- The daemon says that it has done what a call asks for. -/
def Daemon.Exchange.succeeds : Exchange → Bool
  | ⟨_, .ok _⟩ => true
  | ⟨_, .error _⟩ => false

namespace Client

open Interaction

variable {σ : Type} {server : Server σ} {cache : Cache} {d : σ} {log : List Exchange}

/-! ### Calls one after another -/

/-- Some calls, one after another.  The first failure is the result. -/
def performAll : List Call → Operation Unit
  | [] => pure ()
  | call :: calls => do
    let _ ← perform call
    performAll calls

theorem run_performAll_cons (call : Call) (calls : List Call) :
    (performAll (call :: calls)).run = .ask (.call call) fun
      | .ok _ => (performAll calls).run
      | .error error => .done (.error error) := by
  rw [performAll, Client.run_bind, run_perform]
  refine congrArg (Interaction.ask _) (funext fun answer => ?_)
  cases answer <;> rfl

theorem performAll_append (first second : List Call) :
    performAll (first ++ second) = performAll first >>= fun _ => performAll second := by
  refine ExceptT.ext ?_
  induction first with
  | nil => rfl
  | cons call calls ih =>
    rw [List.cons_append, run_performAll_cons, Client.run_bind, run_performAll_cons,
      Interaction.bind]
    refine congrArg (Interaction.ask (Step.call call)) (funext fun answer => ?_)
    cases answer with
    | ok value => rw [ih, Client.run_bind]
    | error error => rfl

/-- The planned calls were made in their order, up to the first that failed.  Its error is the
result. -/
def MadeInTurn (plan : List Call) (calls : List Exchange) : Except ClientError Unit → Prop
  | .ok () => calls.map Sigma.fst = plan ∧ ∀ exchange ∈ calls, exchange.succeeds
  | .error error => ∃ (before : List Exchange) (call : Call),
      calls = before ++ [⟨call, .error error⟩] ∧ (∀ exchange ∈ before, exchange.succeeds) ∧
      calls.map Sigma.fst <+: plan

/-- A call that succeeds comes before the others. -/
theorem MadeInTurn.cons {plan : List Call} {calls : List Exchange}
    {result : Except ClientError Unit} (h : MadeInTurn plan calls result) (call : Call)
    (answer : call.Answer) : MadeInTurn (call :: plan) (⟨call, .ok answer⟩ :: calls) result := by
  cases result with
  | ok =>
    obtain ⟨rfl, hall⟩ := h
    exact ⟨rfl, List.forall_mem_cons.2 ⟨rfl, hall⟩⟩
  | error error =>
    obtain ⟨before, failing, rfl, hbefore, hprefix⟩ := h
    exact ⟨_ :: before, failing, rfl, List.forall_mem_cons.2 ⟨rfl, hbefore⟩,
      List.cons_prefix_cons.2 ⟨rfl, hprefix⟩⟩

/-- A call that fails is the last. -/
theorem madeInTurn_of_error (call : Call) (plan : List Call) (error : ClientError) :
    MadeInTurn (call :: plan) [⟨call, .error error⟩] (.error error) :=
  ⟨[], call, rfl, nofun, List.cons_prefix_cons.2 ⟨rfl, List.nil_prefix⟩⟩

/-- Only planned calls are made. -/
theorem MadeInTurn.mem_plan {plan : List Call} {calls : List Exchange}
    {result : Except ClientError Unit} (h : MadeInTurn plan calls result) {exchange : Exchange}
    (hmem : exchange ∈ calls) : exchange.1 ∈ plan := by
  cases result with
  | ok =>
    obtain ⟨rfl, -⟩ := h
    exact List.mem_map_of_mem hmem
  | error error =>
    obtain ⟨before, failing, rfl, -, hprefix⟩ := h
    exact hprefix.subset (List.mem_map_of_mem hmem)

/-- Without a failure, all planned calls are made. -/
theorem MadeInTurn.exists_mem {plan : List Call} {calls : List Exchange}
    (h : MadeInTurn plan calls (.ok ())) {call : Call} (hmem : call ∈ plan) :
    ∃ answer, ⟨call, .ok answer⟩ ∈ calls := by
  obtain ⟨rfl, hall⟩ := h
  obtain ⟨⟨_, answer⟩, hexchange, rfl⟩ := List.mem_map.1 hmem
  have hsucceeds := hall _ hexchange
  cases answer with
  | ok value => exact ⟨value, hexchange⟩
  | error error => cases hsucceeds

/-! ### What is recorded -/

/-- A call leaves the cache as it is and is recorded with its answer. -/
theorem eq_of_ends_perform {call : Call} {result : Except ClientError call.Answer}
    {s' : Cache × σ × List Exchange}
    (hends : Ends server.recorded (perform call).run (cache, d, log) result s') :
    ∃ d', s' = (cache, d', log ++ [⟨call, result⟩]) := by
  obtain ⟨hcache, hrun⟩ := ends_perform_iff.1 hends
  obtain ⟨cache', s''⟩ := s'
  cases hcache
  cases hrun
  exact ⟨_, rfl⟩

/-- Calls one after another are made in turn. -/
theorem madeInTurn_of_ends {plan : List Call} {result : Except ClientError Unit}
    {s' : Cache × σ × List Exchange}
    (hends : Ends server.recorded (performAll plan).run (cache, d, log) result s') :
    ∃ d' calls, s' = (cache, d', log ++ calls) ∧ MadeInTurn plan calls result := by
  -- What was recorded before stays in front of what the rest of the plan records.
  induction plan generalizing d log with
  | nil =>
    obtain ⟨rfl, rfl⟩ := ends_pure_iff.1 hends
    exact ⟨d, [], by rw [List.append_nil], rfl, nofun⟩
  | cons call plan ih =>
    rw [performAll] at hends
    rcases ends_operation_bind_iff.1 hends with ⟨error, rfl, hcall⟩ | ⟨answer, s₁, hcall, hrest⟩
    · obtain ⟨d', rfl⟩ := eq_of_ends_perform hcall
      exact ⟨d', _, rfl, madeInTurn_of_error call plan error⟩
    · obtain ⟨d₁, rfl⟩ := eq_of_ends_perform hcall
      obtain ⟨d', calls, rfl, hmade⟩ := ih hrest
      exact ⟨d', _, by rw [List.append_assoc, List.singleton_append], hmade.cons call answer⟩

/-- The cache is emptied after the last call, whether it failed or not. -/
theorem madeInTurn_of_ends_followedBy {plan : List Call} {result : Except ClientError Unit}
    {s' : Cache × σ × List Exchange}
    (hends : Ends server.recorded (followedBy (performAll plan) .invalidate).run (cache, d, log)
      result s') :
    ∃ d' calls, s' = (cache.invalidate, d', log ++ calls) ∧ MadeInTurn plan calls result := by
  obtain ⟨s₁, hplan, rfl⟩ := ends_followedBy_invalidate_iff.1 hends
  obtain ⟨d', calls, rfl, hmade⟩ := madeInTurn_of_ends hplan
  exact ⟨d', calls, rfl, hmade⟩

/-! ### What is planned -/

/-- The change of a limit that is asked for.  A number is given only for a limit that is positive,
and what is not positive switches the limit off. -/
def limitAsked (requested : Option Int64) : LimitChange where
  kib := (requested.filter fun bytes => 0 < bytes.toInt).map fun bytes =>
    Int64.ofInt ((bytes.toInt + 1023) / 1024)
  enabled := requested.map fun bytes => 0 < bytes.toInt

/-- The call that gives a torrent another stored name. -/
def renameCalls (hash current new : String) : List Call :=
  if new = current then [] else [.renamePath hash current new]

/-- The labels that are asked for, if a category or tags are given.  What of these is not given is
what the labels held. -/
def labelsAsked (current : List String) (option : TorrentOption) : Option (List String) :=
  if option.category.isSome ∨ option.tags.isSome then
    some (Labels.build (option.category.getD (Labels.categoryOf current))
      (option.tags.getD (Labels.tagsOf current)))
  else none

/-- The call that changes the labels and the limits of a torrent, if any of them are given. -/
def changeCalls (hash : String) (labels : Option (List String)) (option : TorrentOption) :
    List Call :=
  if labels = none ∧ option.downloadSpeedLimit = none ∧ option.uploadSpeedLimit = none then []
  else [.setTorrents [hash]
    ⟨labels, limitAsked option.downloadSpeedLimit, limitAsked option.uploadSpeedLimit⟩]

/-- The call that stops or starts a torrent. -/
def statusCalls (hash : String) : Option Bool → List Call
  | none => []
  | some true => [.stopTorrents [hash]]
  | some false => [.startTorrents [hash]]

/-- The calls that make a torrent what a modification asks for.  The name is written with the side
data if either is given, and what is not given is what the stored name held. -/
def modificationCalls (current : TorrentRecord) (option : TorrentOption)
    (sideData : Option SideData) : List Call :=
  (if option.name.isSome ∨ sideData.isSome then
    renameCalls current.hash current.name
      (Name.encode (option.name.getD (Name.decode current.name).1)
        (sideData.getD (Name.decode current.name).2))
    else []) ++
  (changeCalls current.hash (labelsAsked current.labels option) option ++
    statusCalls current.hash option.paused)

/-- The calls that give a torrent its name and its limits after it was added.  It has its labels
already. -/
def additionCalls (added : TorrentRef) (option : TorrentOption) (sideData : SideData) :
    List Call :=
  renameCalls added.hash added.name
    (Name.encode (option.name.getD (Name.decode added.name).1) sideData) ++
  changeCalls added.hash none option

theorem mem_changeCalls_iff {hash : String} {labels : Option (List String)} {option : TorrentOption}
    {call : Call} : call ∈ changeCalls hash labels option ↔
      ¬ (labels = none ∧ option.downloadSpeedLimit = none ∧ option.uploadSpeedLimit = none) ∧
      call = .setTorrents [hash]
        ⟨labels, limitAsked option.downloadSpeedLimit, limitAsked option.uploadSpeedLimit⟩ := by
  unfold changeCalls
  split <;> simp [*]

/-- Only one of the parts of a modification changes settings. -/
theorem setTorrents_mem_modificationCalls_iff {current : TorrentRecord} {option : TorrentOption}
    {sideData : Option SideData} {hashes : List String} {change : TorrentChange} :
    .setTorrents hashes change ∈ modificationCalls current option sideData ↔
      .setTorrents hashes change ∈
        changeCalls current.hash (labelsAsked current.labels option) option := by
  have hrename : ∀ new, .setTorrents hashes change ∉ renameCalls current.hash current.name new := by
    intro new
    unfold renameCalls
    split <;> simp
  have hstatus : .setTorrents hashes change ∉ statusCalls current.hash option.paused := by
    cases option.paused with
    | none => exact List.not_mem_nil
    | some paused => cases paused <;> simp [statusCalls]
  rw [modificationCalls, List.mem_append, List.mem_append]
  constructor
  · rintro (hmem | hmem | hmem)
    · split at hmem
      · exact absurd hmem (hrename _)
      · cases hmem
    · exact hmem
    · exact absurd hmem hstatus
  · exact fun hmem => .inr (.inl hmem)

theorem limitAsked_eq (requested : Option Int64) :
    limitAsked requested = (requested.map LimitChange.ofBytes).getD {} := by
  cases requested with
  | none => rfl
  | some bytes =>
    by_cases hpos : 0 < bytes.toInt
    · simp [limitAsked, hpos, LimitChange.ofBytes_of_pos, SpeedLimit.ofBytes_of_pos]
    · have hnonpos := Int.not_lt.1 hpos
      simp [limitAsked, hnonpos, LimitChange.ofBytes, SpeedLimit.ofBytes_of_nonpos]

theorem limitAsked_eq_empty_iff {requested : Option Int64} :
    limitAsked requested = {} ↔ requested = none := by
  cases requested <;> simp [limitAsked]

/-! ### What is done is what was planned -/

theorem bind_pure_unit (operation : Operation Unit) :
    (operation >>= fun _ => pure ()) = operation := by
  refine ExceptT.ext ?_
  rw [Client.run_bind]
  generalize operation.run = x
  induction x with
  | done result => cases result <;> rfl
  | ask step next ih => exact congrArg (Interaction.ask step) (funext ih)

theorem rename_eq_performAll (hash current new : String) :
    rename hash current new = performAll (renameCalls hash current new) := by
  by_cases hsame : current = new
  · rw [rename, if_pos hsame, renameCalls, if_pos hsame.symm, performAll]
  · rw [rename, if_neg hsame, renameCalls, if_neg (Ne.symm hsame)]
    exact (bind_pure_unit (perform (.renamePath hash current new))).symm

theorem applyChange_eq_performAll (hash : String) (labels : Option (List String))
    (option : TorrentOption) :
    applyChange hash { limitChanges option with labels } =
      performAll (changeCalls hash labels option) := by
  have hchange : { limitChanges option with labels } = TorrentChange.mk labels
      (limitAsked option.downloadSpeedLimit) (limitAsked option.uploadSpeedLimit) := by
    rw [limitAsked_eq, limitAsked_eq, limitChanges]
  rw [hchange, changeCalls]
  generalize hasked : TorrentChange.mk labels _ _ = change
  have hempty : change.isEmpty ↔
      labels = none ∧ option.downloadSpeedLimit = none ∧ option.uploadSpeedLimit = none := by
    simp [TorrentChange.isEmpty, ← hasked, limitAsked_eq_empty_iff]
  by_cases hnone : change.isEmpty
  · rw [applyChange, if_pos hnone, if_pos (hempty.1 hnone), performAll]
  · rw [applyChange, if_neg hnone, if_neg (mt hempty.2 hnone)]
    exact (bind_pure_unit (perform (.setTorrents [hash] change))).symm

theorem setPaused_eq_performAll (hash : String) (paused : Bool) :
    setPaused hash paused = performAll (statusCalls hash (some paused)) := by
  cases paused with
  | true => exact (bind_pure_unit (perform (.stopTorrents [hash]))).symm
  | false => exact (bind_pure_unit (perform (.startTorrents [hash]))).symm

/-- After a torrent was found, a modification makes the planned calls. -/
theorem applyModification_eq_performAll (current : TorrentRecord) (option : TorrentOption)
    (sideData : Option SideData) : applyModification current option sideData =
      performAll (modificationCalls current option sideData) := by
  rw [applyModification_eq, modificationCalls, performAll_append, performAll_append]
  -- The parts are the name, the settings and the status.
  refine congrArg₂ (· >>= ·) ?_ (funext fun _ => congrArg₂ (· >>= ·) ?_ (funext fun _ => ?_))
  · by_cases hasked : option.name.isSome ∨ sideData.isSome
    · rw [newName?, if_pos (Bool.or_eq_true_iff.2 hasked), if_pos hasked, ← rename_eq_performAll]
    · rw [newName?, if_neg (mt Bool.or_eq_true_iff.1 hasked), if_neg hasked, performAll]
  · rw [← applyChange_eq_performAll]
    simp only [newLabels?, labelsAsked, Bool.or_eq_true]
  · cases option.paused with
    | none => rfl
    | some paused => exact setPaused_eq_performAll current.hash paused

/-- With an empty list of tags, the labels are written and so removed. -/
example : modificationCalls onlyRecord { name := some "Song", tags := some [], paused := some true }
    none = [.renamePath "ab" "Film" "Song", .setTorrents ["ab"] { labels := some [] },
      .stopTorrents ["ab"]] := by
  decide +kernel

/-- After a torrent was added, an addition makes the planned calls. -/
theorem finishAdded_eq_performAll (added : TorrentRef) (option : TorrentOption)
    (sideData : SideData) : finishAdded added option sideData =
      performAll (additionCalls added option sideData) := by
  rw [additionCalls, performAll_append, ← rename_eq_performAll, ← applyChange_eq_performAll]
  rfl

/-! ### Modifying -/

/-- What a client takes from the daemon's answer to be the torrent with a hash. -/
inductive Fetches (hash : String) :
    Except ClientError (List TorrentRecord) → Except ClientError TorrentRecord → Prop
  | failed (error : ClientError) : Fetches hash (.error error) (.error error)
  | notFound (records : List TorrentRecord) (hnone : ∀ record ∈ records, ¬ record.hasHash hash) :
      Fetches hash (.ok records) (.error (.torrentNotFound hash))
  /-- The first torrent with the hash counts. -/
  | found (before : List TorrentRecord) (current : TorrentRecord) (after : List TorrentRecord)
      (hbefore : ∀ record ∈ before, ¬ record.hasHash hash) (hcurrent : current.hasHash hash) :
      Fetches hash (.ok (before ++ current :: after)) (.ok current)

theorem fetches_of_ends {hash : String} {fetched : Except ClientError TorrentRecord}
    {s' : Cache × σ × List Exchange}
    (hends : Ends server.recorded (fetchOne hash).run (cache, d, log) fetched s') :
    ∃ d' answer, s' = (cache, d', log ++ [⟨.getTorrents (some [hash]), answer⟩]) ∧
      Fetches hash answer fetched := by
  rcases ends_operation_bind_iff.1 hends with ⟨error, rfl, hcall⟩ | ⟨records, s₁, hcall, hfound⟩
  · obtain ⟨d', rfl⟩ := eq_of_ends_perform hcall
    exact ⟨d', .error error, rfl, .failed error⟩
  · obtain ⟨d', rfl⟩ := eq_of_ends_perform hcall
    cases hfind : List.find? (fun record => Text.equalIgnoringAsciiCase record.hash hash)
      records with
    | none =>
      rw [hfind] at hfound
      obtain ⟨rfl, rfl⟩ := ends_throw_iff.1 hfound
      exact ⟨d', .ok records, rfl, .notFound records (List.find?_eq_none.1 hfind)⟩
    | some current =>
      rw [hfind] at hfound
      obtain ⟨rfl, rfl⟩ := ends_pure_iff.1 hfound
      obtain ⟨hcurrent, before, after, rfl, hbefore⟩ := List.find?_eq_some_iff_append.1 hfind
      refine ⟨d', .ok _, rfl, .found before current after ?_ hcurrent⟩
      simpa [TorrentRecord.hasHash] using hbefore

/-- How a modification ends with what it takes to be its torrent: with the later calls, the result
and the cache. -/
def Modifies (cache : Cache) (option : TorrentOption) (sideData : Option SideData)
    (fetched : Except ClientError TorrentRecord) (later : List Exchange)
    (result : Except ClientError Unit) (cache' : Cache) : Prop :=
  match fetched with
  | .error error => later = [] ∧ result = .error error ∧ cache' = cache
  | .ok current =>
    MadeInTurn (modificationCalls current option sideData) later result ∧ cache' = cache.invalidate

theorem modifies_of_ends {hash : String} {option : TorrentOption} {sideData : Option SideData}
    {result : Except ClientError Unit} {s' : Cache × σ × List Exchange}
    (hends : Ends server.recorded (modifyTorrent hash option sideData).run (cache, d, []) result
      s') :
    ∃ cache' d' answer fetched later,
      s' = (cache', d', ⟨.getTorrents (some [hash]), answer⟩ :: later) ∧
      Fetches hash answer fetched ∧ Modifies cache option sideData fetched later result cache' := by
  rw [modifyTorrent, ends_exclusively_iff] at hends
  rcases ends_operation_bind_iff.1 hends with ⟨error, rfl, hfetch⟩ | ⟨current, s₁, hfetch, hrest⟩
  · obtain ⟨d', answer, rfl, hfetches⟩ := fetches_of_ends hfetch
    exact ⟨cache, d', answer, .error error, [], rfl, hfetches, rfl, rfl, rfl⟩
  · obtain ⟨d₁, answer, rfl, hfetches⟩ := fetches_of_ends hfetch
    rw [applyModification_eq_performAll] at hrest
    obtain ⟨d', later, rfl, hmade⟩ := madeInTurn_of_ends_followedBy hrest
    exact ⟨_, d', answer, .ok current, later, rfl, hfetches, hmade, rfl⟩

/-- **All calls of a modification.**  Whatever the daemon answers, a modification first asks for the
torrent.  If this fails or no torrent has the hash, there is no other call, and the cache stays as
it is.  Otherwise the first torrent with the hash tells the other calls, which are made in turn, and
then the cache is empty, whether one of them has failed or not. -/
theorem modifyTorrent_calls (server : Server σ) (cache : Cache) (d : σ) (hash : String)
    (option : TorrentOption) (sideData : Option SideData) :
    ∃ (result : Except ClientError Unit) (cache' : Cache) (d' : σ)
      (answer : Except ClientError (List TorrentRecord))
      (fetched : Except ClientError TorrentRecord) (later : List Exchange),
      Ends server.recorded (modifyTorrent hash option sideData).run (cache, d, []) result
        (cache', d', ⟨.getTorrents (some [hash]), answer⟩ :: later) ∧
      Fetches hash answer fetched ∧ Modifies cache option sideData fetched later result cache' := by
  obtain ⟨result, s', hends⟩ : ∃ result s', Ends server.recorded
      (modifyTorrent hash option sideData).run (cache, d, []) result s' := exists_ends
  obtain ⟨cache', d', answer, fetched, later, rfl, hmodifies⟩ := modifies_of_ends hends
  exact ⟨result, cache', d', answer, fetched, later, hends, hmodifies⟩

/-! ### Adding -/

/-- What the daemon is told of a torrent to be added is as the client and the option say.  The
content is written in Base64. -/
structure IsNewTorrentFor (client : Client) (content : List UInt8) (option : TorrentOption)
    (new : NewTorrent) : Prop where
  metainfo : Text.IsBase64 content new.metainfo.toList
  paused : new.paused = option.paused.getD false
  downloadDir (dir : String) : new.downloadDir = some dir ↔
    Toml.Table.get? client.config.extra "download_dir" = some (.string dir)
  labels : new.labels = Labels.build (option.category.getD "") (option.tags.getD [])

theorem isNewTorrentFor_newTorrent (client : Client) (content : List UInt8)
    (option : TorrentOption) :
    IsNewTorrentFor client content option (client.newTorrent content option) where
  metainfo := by
    simpa [newTorrent, Text.base64] using Text.isBase64_base64Chars content
  paused := rfl
  downloadDir dir := by
    simp only [newTorrent, ClientConfig.extraString?, Toml.Table.string?, downloadDirKey]
    cases Toml.Table.get? client.config.extra "download_dir" with
    | none => simp
    | some value => cases value <;> simp
  labels := rfl

/-- **All calls of an addition.**  Whatever the daemon answers, an addition first adds the torrent
as the client and the option say.  If this fails or the torrent was there before, there is no other
call, and the cache stays as it is.  Otherwise what was added tells the other calls, which are made
in turn, and then the cache is empty, whether one of them has failed or not. -/
theorem addTorrent_calls (server : Server σ) (cache : Cache) (d : σ) (client : Client)
    (content : List UInt8) (option : TorrentOption) (sideData : SideData) :
    ∃ (result : Except ClientError Unit) (cache' : Cache) (d' : σ) (new : NewTorrent)
      (answer : Except ClientError AddOutcome) (later : List Exchange),
      Ends server.recorded (client.addTorrent content option sideData).run (cache, d, []) result
        (cache', d', ⟨.addTorrent new, answer⟩ :: later) ∧
      IsNewTorrentFor client content option new ∧
      match answer with
      | .error error => later = [] ∧ result = .error error ∧ cache' = cache
      | .ok (.duplicate existing) =>
        later = [] ∧ result = .error (.duplicateTorrent existing.hash) ∧ cache' = cache
      | .ok (.added added) =>
        MadeInTurn (additionCalls added option sideData) later result ∧
          cache' = cache.invalidate := by
  obtain ⟨result, s', hends⟩ : ∃ result s', Ends server.recorded
      (client.addTorrent content option sideData).run (cache, d, []) result s' := exists_ends
  have hasked := isNewTorrentFor_newTorrent client content option
  have hrun := hends
  rw [addTorrent, ends_exclusively_iff] at hrun
  rcases ends_operation_bind_iff.1 hrun with ⟨error, rfl, hcall⟩ | ⟨outcome, s₁, hcall, hrest⟩
  · obtain ⟨d', rfl⟩ := eq_of_ends_perform hcall
    exact ⟨_, cache, d', _, .error error, [], hends, hasked, rfl, rfl, rfl⟩
  · obtain ⟨d₁, rfl⟩ := eq_of_ends_perform hcall
    cases outcome with
    | duplicate existing =>
      obtain ⟨rfl, rfl⟩ := ends_throw_iff.1 hrest
      exact ⟨_, cache, d₁, _, .ok (.duplicate existing), [], hends, hasked, rfl, rfl, rfl⟩
    | added added =>
      change Ends _ (followedBy (finishAdded added option sideData) .invalidate).run _ _ _ at hrest
      rw [finishAdded_eq_performAll] at hrest
      obtain ⟨d', later, rfl, hmade⟩ := madeInTurn_of_ends_followedBy hrest
      exact ⟨result, _, d', _, .ok (.added added), later, hends, hasked, hmade, rfl⟩

end Client

end TorrentRemote
