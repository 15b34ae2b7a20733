import TorrentRemote.Client.Run
import TorrentRemote.Proofs.Client.Protocol
import TorrentRemote.Proofs.Daemon.Store

/-!
# Operations one at a time

What an operation results in when no other runs beside it, from a state of the cache and of the
daemon.  The daemon answers as it likes and may become another by every call.

## Main definitions

* `Client.Ends` : what an action results in.

## Main results

* `Client.ends_operation_bind_iff`, `Client.ends_followedBy_invalidate_iff`,
  `Client.ends_exclusively_iff` : what composed operations result in.
* `Client.ends_torrents_of_empty` : what a listing results in.
-/

namespace TorrentRemote.Client

variable {σ α β : Type}

/-- Run alone with the cache and the daemon `s`, an action results in `value` and leaves `s'`. -/
def Ends (server : Daemon.Server σ) (action : Action α) (s : Cache × σ) (value : α)
    (s' : Cache × σ) : Prop :=
  ((run server action).run s.1).run s.2 = ((value, s'.1), s'.2)

variable {server : Daemon.Server σ} {s s' : Cache × σ}

/-! ### Actions -/

/-- Every action ends. -/
theorem exists_ends {action : Action α} : ∃ value s', Ends server action s value s' :=
  ⟨_, (_, _), rfl⟩

/-- What an action results in is what running it returns. -/
theorem Ends.value_eq {action : Action α} {value : α} (h : Ends server action s value s') :
    value = (((run server action).run s.1).run s.2).1.1 :=
  (congrArg (·.1.1) h).symm

theorem Ends.daemon_eq {action : Action α} {value : α} (h : Ends server action s value s') :
    s'.2 = (((run server action).run s.1).run s.2).2 :=
  (congrArg Prod.snd h).symm

theorem ends_done_iff {value v : α} : Ends server (.done value) s v s' ↔ v = value ∧ s' = s := by
  change ((value, s.1), s.2) = ((v, s'.1), s'.2) ↔ _
  simp only [Prod.ext_iff, and_assoc, eq_comm]

theorem ends_bind_iff {x : Action α} {f : α → Action β} {value : β} :
    Ends server (x.bind f) s value s' ↔
      ∃ v s₁, Ends server x s v s₁ ∧ Ends server (f v) s₁ value s' := by
  unfold Ends run
  rw [Interaction.run_bind, StateT.run_bind, StateT.run_bind]
  constructor
  · intro h
    exact ⟨_, (_, _), rfl, h⟩
  · rintro ⟨v, s₁, hx, hf⟩
    rw [hx]
    exact hf

theorem ends_call_iff {call : Daemon.Call} {next : Except ClientError call.Answer → Action α}
    {value : α} : Ends server (.ask (.call call) next) s value s' ↔
      Ends server (next ((server call).run s.2).1) (s.1, ((server call).run s.2).2) value s' :=
  Iff.rfl

theorem ends_readCache_iff {next : Option (List Torrent) → Action α} {value : α} :
    Ends server (.ask .readCache next) s value s' ↔ Ends server (next s.1.torrents) s value s' :=
  Iff.rfl

theorem ends_readGeneration_iff {next : UInt64 → Action α} {value : α} :
    Ends server (.ask .readGeneration next) s value s' ↔
      Ends server (next s.1.generation) s value s' :=
  Iff.rfl

theorem ends_store_iff {generation : UInt64} {torrents : List Torrent} {next : Unit → Action α}
    {value : α} : Ends server (.ask (.store generation torrents) next) s value s' ↔
      Ends server (next ()) (s.1.store generation torrents, s.2) value s' :=
  Iff.rfl

theorem ends_invalidate_iff {next : Unit → Action α} {value : α} :
    Ends server (.ask .invalidate next) s value s' ↔
      Ends server (next ()) (s.1.invalidate, s.2) value s' :=
  Iff.rfl

theorem ends_lock_iff {next : Unit → Action α} {value : α} :
    Ends server (.ask .lock next) s value s' ↔ Ends server (next ()) s value s' :=
  Iff.rfl

theorem ends_unlock_iff {next : Unit → Action α} {value : α} :
    Ends server (.ask .unlock next) s value s' ↔ Ends server (next ()) s value s' :=
  Iff.rfl

/-! ### Operations -/

theorem ends_perform_iff {call : Daemon.Call} {result : Except ClientError call.Answer} :
    Ends server (perform call).run s result s' ↔
      s'.1 = s.1 ∧ (server call).run s.2 = (result, s'.2) := by
  rw [run_perform, ends_call_iff, ends_done_iff]
  constructor
  · rintro ⟨rfl, rfl⟩
    exact ⟨rfl, rfl⟩
  · rintro ⟨hcache, hcall⟩
    rw [hcall]
    exact ⟨rfl, Prod.ext hcache rfl⟩

/-- An operation after another ends with an error of the first, or as the second does. -/
theorem ends_operation_bind_iff {x : Operation α} {f : α → Operation β}
    {result : Except ClientError β} :
    Ends server (x >>= f).run s result s' ↔
      (∃ error, result = .error error ∧ Ends server x.run s (.error error) s') ∨
      ∃ v s₁, Ends server x.run s (.ok v) s₁ ∧ Ends server (f v).run s₁ result s' := by
  rw [run_bind, ends_bind_iff]
  constructor
  · rintro ⟨outcome, s₁, hx, hf⟩
    cases outcome with
    | ok v => exact .inr ⟨v, s₁, hx, hf⟩
    | error error =>
      obtain ⟨rfl, rfl⟩ := ends_done_iff.1 hf
      exact .inl ⟨error, rfl, hx⟩
  · rintro (⟨error, rfl, hx⟩ | ⟨v, s₁, hx, hf⟩)
    · exact ⟨.error error, s', hx, ends_done_iff.2 ⟨rfl, rfl⟩⟩
    · exact ⟨.ok v, s₁, hx, hf⟩

/-- An operation after another succeeds if both do. -/
theorem ends_bind_ok_iff {x : Operation α} {f : α → Operation β} {value : β} :
    Ends server (x >>= f).run s (.ok value) s' ↔
      ∃ v s₁, Ends server x.run s (.ok v) s₁ ∧ Ends server (f v).run s₁ (.ok value) s' := by
  rw [ends_operation_bind_iff]
  exact or_iff_right fun ⟨_, heq, _⟩ => nomatch heq

/-- Running an operation shows whether it succeeds. -/
theorem exists_ends_ok {operation : Operation Unit}
    (h : (((run server operation.run).run s.1).run s.2).1.1.toBool) :
    ∃ s', Ends server operation.run s (.ok ()) s' := by
  unfold Ends
  generalize ((run server operation.run).run s.1).run s.2 = outcome at h ⊢
  obtain ⟨⟨result, cache⟩, daemon⟩ := outcome
  cases result with
  | ok => exact ⟨(cache, daemon), rfl⟩
  | error error => cases h

theorem ends_pure_iff {value : α} {result : Except ClientError α} :
    Ends server (pure value : Operation α).run s result s' ↔ result = .ok value ∧ s' = s :=
  ends_done_iff

theorem ends_throw_iff {error : ClientError} {result : Except ClientError α} :
    Ends server (throw error : Operation α).run s result s' ↔ result = .error error ∧ s' = s :=
  ends_done_iff

theorem ends_followedBy_invalidate_iff {operation : Operation α} {result : Except ClientError α} :
    Ends server (followedBy operation .invalidate).run s result s' ↔
      ∃ s₁, Ends server operation.run s result s₁ ∧ s' = (s₁.1.invalidate, s₁.2) := by
  rw [run_followedBy, ends_bind_iff]
  simp only [ends_invalidate_iff, ends_done_iff]
  constructor
  · rintro ⟨v, s₁, hop, rfl, rfl⟩
    exact ⟨s₁, hop, rfl⟩
  · rintro ⟨s₁, hop, rfl⟩
    exact ⟨result, s₁, hop, rfl, rfl⟩

/-- Alone, an operation finds the lock free. -/
theorem ends_exclusively_iff {operation : Operation α} {result : Except ClientError α} :
    Ends server (exclusively operation).run s result s' ↔
      Ends server operation.run s result s' := by
  rw [run_exclusively, ends_lock_iff, ends_bind_iff]
  simp only [ends_unlock_iff, ends_done_iff]
  constructor
  · rintro ⟨v, s₁, hop, rfl, rfl⟩
    exact hop
  · intro hop
    exact ⟨result, s', hop, rfl, rfl⟩

/-! ### Listing -/

/-- With an empty cache, a listing returns what the daemon tells, and keeps it. -/
theorem ends_torrents_of_empty (hcache : s.1.torrents = none)
    {records : List Daemon.TorrentRecord} {d : σ}
    (hcall : (server (.getTorrents none)).run s.2 = (.ok records, d))
    (state : Option TorrentState) (category : Option String) :
    Ends server (torrents state category).run s
      (.ok ((records.map Daemon.TorrentRecord.toTorrent).filter fun torrent =>
        torrent.matchesFilter state category))
      (⟨some (records.map Daemon.TorrentRecord.toTorrent), s.1.generation⟩, d) := by
  rw [torrents, ends_bind_ok_iff]
  -- Nothing empties the cache between the two steps at it, so the list is kept.
  refine ⟨_, _, ?_, ends_pure_iff.2 ⟨rfl, rfl⟩⟩
  rw [run_allTorrents, ends_readCache_iff, hcache, ends_readGeneration_iff, ends_call_iff, hcall,
    ends_store_iff, ends_done_iff, Cache.store, if_pos rfl]
  exact ⟨rfl, rfl⟩

end TorrentRemote.Client
