import TorrentRemote.Proofs.Client.Freshness

/-!
# Lists after changes that fail

A change of torrents may fail after some of its calls had their effect, and a call that fails may
still have had it.  Modifying and deleting empty the cache after their last call whatever became of
it, so a listing that starts later is told all that they did.  Adding empties the cache only if the
daemon has confirmed that the torrent was added.  If this answer is lost, a list from before the
torrent was added stays in the cache.

## Main definitions

* `Daemon.Call.isWriting` : a call that may change what the daemon has.
* `Client.IsUnconfirmed` : a torrent was to be added, and the daemon's answer is not that it was.

## Main results

* `Client.listed_after_failed_changes` : a listing is told all that changes before it did, however
  they ended, except for what they did not get confirmed.
* `Client.not_listed_after_lost_answer` : a listing that is not told of a torrent that was added.
-/

namespace TorrentRemote

/-- A call that may change what the daemon has. -/
def Daemon.Call.isWriting : Daemon.Call → Bool
  | .getTorrents _ | .getSession | .getStats | .freeSpace _ => false
  | _ => true

namespace Client

open Interaction

variable {σ : Type} {client : Client} {serves : Serves σ} {daemon : σ} {events : List Event}
  {s : System σ}

/-- A request to add, to modify or to delete torrents. -/
def Request.ChangesTorrents : Request → Prop
  | add .. | modify .. | delete .. => True
  | _ => False

/-- A torrent was to be added, and the daemon did not answer that it was. -/
def IsUnconfirmed : (step : Step) × step.Result → Prop
  | ⟨.call (.addTorrent _), .ok (.added _)⟩ => False
  | ⟨.call (.addTorrent _), _⟩ => True
  | _ => False

/-- A call that may change what the daemon has, other than an unconfirmed one. -/
def Writes (entry : (step : Step) × step.Result) : Prop :=
  (∃ call : Daemon.Call, entry.1 = .call call ∧ call.isWriting) ∧ ¬ IsUnconfirmed entry

/-- However a change of torrents has ended, it has emptied the cache after its last call, or it has
written nothing. -/
theorem Request.ChangesTorrents.emptiesLast {request : Request} (hchanges : request.ChangesTorrents)
    {result : request.Result} {h : History}
    (hleads : Leads (request.action client) h (.done result)) :
    EmptiesLast h ∨ ∀ entry ∈ h, ¬ Writes entry := by
  have hlock : ¬ Writes ⟨.lock, ()⟩ := fun ⟨⟨_, heq, _⟩, _⟩ => nomatch heq
  have hunlock : ¬ Writes ⟨.unlock, ()⟩ := fun ⟨⟨_, heq, _⟩, _⟩ => nomatch heq
  cases request with
  | add content option sideData =>
    rcases leads_addTorrent hleads with ⟨answer, hnot, -, rfl⟩ | ⟨ref, h', -, rfl⟩
    · have hcall : IsUnconfirmed
          ⟨.call (.addTorrent (client.newTorrent content option)), answer⟩ := by
        rcases answer with error | ⟨ref⟩ | ⟨ref⟩
        · trivial
        · exact absurd rfl (hnot ref)
        · trivial
      exact .inr (by simpa [hlock, hunlock] using fun hwrites : Writes _ => hwrites.2 hcall)
    · exact .inl (((emptiesLast_append h').cons _).cons _)
  | modify hash option sideData =>
    rcases leads_modifyTorrent hleads with ⟨answer, -, -, rfl⟩ | ⟨records, current, h', -, -, rfl⟩
    · have hcall : ¬ Writes ⟨.call (.getTorrents (some [hash])), answer⟩ := by
        rintro ⟨⟨call, heq, hwriting⟩, -⟩
        cases heq
        cases hwriting
      exact .inr (by simp [hlock, hunlock, hcall])
    · exact .inl (((emptiesLast_append h').cons _).cons _)
  | delete hashes deleteFiles =>
    obtain ⟨failures, h', hremove, -, rfl⟩ := leads_deleteTorrents hleads
    by_cases hnil : hashes = []
    · subst hnil
      obtain ⟨rfl, -⟩ := leads_done_iff.1 hremove
      exact .inr (by simp [hlock, hunlock])
    · rw [if_neg hnil]
      exact .inl ((emptiesLast_append h').cons _)
  | _ => exact hchanges.elim

/-- **Lists after changes that failed.**  In every run in which the cache is emptied fewer than
`2 ^ 64` times, what a listing returns was told by the daemon after all that the adding, modifying
and deleting of torrents did that had ended before the listing started, whether it had ended well or
not, and also if calls failed that had their effect nevertheless.  The exception is a call to add a
torrent that the daemon does not confirm. -/
theorem listed_after_failed_changes (client : Client) (serves : Serves σ) (daemon : σ)
    (events : List Event) (s : System σ) (hreach : Reaches client serves daemon events s)
    (hcount : events.countP Event.isInvalidation < 2 ^ 64) (i b e : Nat)
    (state : Option TorrentState) (category : Option String) (listed : List Torrent)
    (hstart : events[b]? = some (.started i (.torrents state category)))
    (hreturn : events[e]? = some (.returned i (.torrents state category) (.ok listed))) :
    ∃ k all, k < e ∧ SnapshotAt events k all ∧
      listed = all.filter (fun torrent => torrent.matchesFilter state category) ∧
      ∀ (j a : Nat) (request : Request) (result : request.Result),
        events[a]? = some (.returned j request result) → request.ChangesTorrents → a < b →
        ∀ (d : Nat) (step : Step) (answer : step.Result),
          events[d]? = some (.stepped j step answer) → Writes ⟨step, answer⟩ → d < k := by
  obtain ⟨k, all, hke, hsnapshot, hlisted, hepoch⟩ :=
    hreach.exists_snapshot_of_returned hcount hstart hreturn
  refine ⟨k, all, hke, hsnapshot, hlisted, fun j a request result ha hchanges hab => ?_⟩
  intro d step answer hd hwrites
  rcases hchanges.emptiesLast (hreach.leads_of_returned ha) with hempties | hnone
  · obtain ⟨v, hva, hv, hacts⟩ := hreach.exists_invalidation_of_emptiesLast ha hempties
    have hdv : d ≤ v := by
      obtain ⟨⟨call, rfl, -⟩, -⟩ := hwrites
      exact hacts d _ answer hd trivial
    have hle : epoch events (v + 1) ≤ epoch events b := epoch_mono events (by omega)
    rw [epoch_succ hv] at hle
    exact Nat.lt_of_le_of_lt hdv (lt_of_epoch_lt events (by omega))
  · have hda : d < a := hreach.lt_of_returned ha hd
    have htake : (events.take a)[d]? = some (.stepped j step answer) := by
      rw [List.getElem?_take_of_lt hda, hd]
    exact absurd hwrites (hnone _ (mem_history htake))

/-! ### Answers that are lost -/

/-- A daemon that adds and removes torrents, whose answers to this are lost. -/
inductive LosesAnswers : Serves (List Daemon.TorrentRecord)
  | list (stored : List Daemon.TorrentRecord) :
      LosesAnswers stored (.getTorrents none) (.ok stored) stored
  | add (stored : List Daemon.TorrentRecord) (new : Daemon.NewTorrent) :
      LosesAnswers stored (.addTorrent new) (.error (.communication "request timed out"))
        (stored ++ [onlyRecord])
  | remove (stored : List Daemon.TorrentRecord) (hashes : List String) (deleteFiles : Bool) :
      LosesAnswers stored (.removeTorrents hashes deleteFiles)
        (.error (.communication "request timed out"))
        (stored.filter fun record => record.hash ∉ hashes)

/-- The deletion 1 removes the torrent that the listing 0 has kept, and fails.  The listing 2 starts
later. -/
def lostRemovalRun : List Event :=
  [.started 0 (.torrents none none),
    .stepped 0 .readCache none,
    .stepped 0 .readGeneration 0,
    .stepped 0 (.call (.getTorrents none)) (.ok [onlyRecord]),
    .stepped 0 (.store 0 [onlyRecord.toTorrent]) (),
    .returned 0 (.torrents none none) (.ok [onlyRecord.toTorrent]),
    .started 1 (.delete ["ab"] false),
    .stepped 1 .lock (),
    .stepped 1 (.call (.removeTorrents ["ab"] false))
      (.error (.communication "request timed out")),
    .stepped 1 .invalidate (),
    .stepped 1 .unlock (),
    .returned 1 (.delete ["ab"] false)
      (.error (.batch [("ab", .communication "request timed out")])),
    .started 2 (.torrents none none),
    .stepped 2 .readCache none,
    .stepped 2 .readGeneration 1,
    .stepped 2 (.call (.getTorrents none)) (.ok []),
    .stepped 2 (.store 1 []) (),
    .returned 2 (.torrents none none) (.ok [])]

/-- The adding 1 adds a torrent after the listing 0 has kept the empty list, and fails.  The listing
2 starts later. -/
def lostAdditionRun : List Event :=
  [.started 0 (.torrents none none),
    .stepped 0 .readCache none,
    .stepped 0 .readGeneration 0,
    .stepped 0 (.call (.getTorrents none)) (.ok []),
    .stepped 0 (.store 0 []) (),
    .returned 0 (.torrents none none) (.ok []),
    .started 1 (.add [] {} .empty),
    .stepped 1 .lock (),
    .stepped 1 (.call (.addTorrent (homeClient.newTorrent [] {})))
      (.error (.communication "request timed out")),
    .stepped 1 .unlock (),
    .returned 1 (.add [] {} .empty) (.error (.communication "request timed out")),
    .started 2 (.torrents none none),
    .stepped 2 .readCache (some []),
    .returned 2 (.torrents none none) (.ok [])]

theorem reaches_lostRemovalRun :
    ∃ s, Reaches homeClient LosesAnswers [onlyRecord] lostRemovalRun s := by
  have h₀ : Reaches homeClient LosesAnswers [onlyRecord] [] _ := .initial
  have h₁ := h₀.next (show Next _ _ _ (.started 0 (.torrents none none)) _ from .start rfl)
  have h₂ := h₁.next (show Next _ _ _ (.stepped 0 .readCache none) _ from .step rfl .readCache)
  have h₃ := h₂.next (show Next _ _ _ (.stepped 0 .readGeneration 0) _ from
    .step rfl .readGeneration)
  have h₄ := h₃.next (show Next _ _ _ (.stepped 0 (.call (.getTorrents none)) (.ok [onlyRecord])) _
    from .step rfl (.call (.list _)))
  have h₅ := h₄.next (show Next _ _ _ (.stepped 0 (.store 0 [onlyRecord.toTorrent]) ()) _ from
    .step rfl (.store _ _))
  have h₆ := h₅.next (show Next _ _ _
    (.returned 0 (.torrents none none) (.ok [onlyRecord.toTorrent])) _ from .finish rfl)
  have h₇ := h₆.next (show Next _ _ _ (.started 1 (.delete ["ab"] false)) _ from .start rfl)
  have h₈ := h₇.next (show Next _ _ _ (.stepped 1 .lock ()) _ from .step rfl (.lock rfl))
  have h₉ := h₈.next (show Next _ _ _ (.stepped 1 (.call (.removeTorrents ["ab"] false))
    (.error (.communication "request timed out"))) _ from .step rfl (.call (.remove _ _ _)))
  have h₁₀ := h₉.next (show Next _ _ _ (.stepped 1 .invalidate ()) _ from .step rfl .invalidate)
  have h₁₁ := h₁₀.next (show Next _ _ _ (.stepped 1 .unlock ()) _ from .step rfl .unlock)
  have h₁₂ := h₁₁.next (show Next _ _ _ (.returned 1 (.delete ["ab"] false)
    (.error (.batch [("ab", .communication "request timed out")]))) _ from .finish rfl)
  have h₁₃ := h₁₂.next (show Next _ _ _ (.started 2 (.torrents none none)) _ from .start rfl)
  have h₁₄ := h₁₃.next (show Next _ _ _ (.stepped 2 .readCache none) _ from .step rfl .readCache)
  have h₁₅ := h₁₄.next (show Next _ _ _ (.stepped 2 .readGeneration 1) _ from
    .step rfl .readGeneration)
  have h₁₆ := h₁₅.next (show Next _ _ _ (.stepped 2 (.call (.getTorrents none)) (.ok [])) _ from
    .step rfl (.call (.list [])))
  have h₁₇ := h₁₆.next (show Next _ _ _ (.stepped 2 (.store 1 []) ()) _ from
    .step rfl (.store _ _))
  have h₁₈ := h₁₇.next (show Next _ _ _ (.returned 2 (.torrents none none) (.ok [])) _ from
    .finish rfl)
  exact ⟨_, h₁₈⟩

/-- The later listing is told that the torrent is gone, although the deletion failed. -/
theorem listed_after_lost_removal :
    ∃ s, Reaches homeClient LosesAnswers [onlyRecord] lostRemovalRun s ∧
      lostRemovalRun.countP Event.isInvalidation < 2 ^ 64 ∧
      ∃ k all, k < 17 ∧ SnapshotAt lostRemovalRun k all ∧
        [] = all.filter (fun torrent => torrent.matchesFilter none none) ∧ 8 < k := by
  obtain ⟨s, hreach⟩ := reaches_lostRemovalRun
  have hcount : lostRemovalRun.countP Event.isInvalidation < 2 ^ 64 := by decide
  obtain ⟨k, all, hk, hsnapshot, hlisted, hlater⟩ :=
    listed_after_failed_changes _ _ _ _ s hreach hcount 2 12 17 none none [] rfl rfl
  have hremoved := hlater 1 11 (.delete ["ab"] false) _ rfl trivial (by decide) 8
    (.call (.removeTorrents ["ab"] false)) _ rfl ⟨⟨_, rfl, rfl⟩, id⟩
  exact ⟨s, hreach, hcount, k, all, hk, hsnapshot, hlisted, hremoved⟩

/-- **A list may be older than an addition that failed.**  The daemon adds a torrent at the time 8,
but its answer is lost, so the cache keeps the list from the time 3.  The listing that starts after
the adding has returned returns this list, and no later one. -/
theorem not_listed_after_lost_answer :
    (∃ s, Reaches homeClient LosesAnswers [] lostAdditionRun s ∧ s.daemon = [onlyRecord]) ∧
    lostAdditionRun[8]? = some (.stepped 1 (.call (.addTorrent (homeClient.newTorrent [] {})))
      (.error (.communication "request timed out"))) ∧
    lostAdditionRun[10]? =
      some (.returned 1 (.add [] {} .empty) (.error (.communication "request timed out"))) ∧
    lostAdditionRun[11]? = some (.started 2 (.torrents none none)) ∧
    lostAdditionRun[13]? = some (.returned 2 (.torrents none none) (.ok [])) ∧
    ¬ ∃ k all, SnapshotAt lostAdditionRun k all ∧ 8 < k := by
  refine ⟨?_, rfl, rfl, rfl, rfl, ?_⟩
  · have h₀ : Reaches homeClient LosesAnswers [] [] _ := .initial
    have h₁ := h₀.next (show Next _ _ _ (.started 0 (.torrents none none)) _ from .start rfl)
    have h₂ := h₁.next (show Next _ _ _ (.stepped 0 .readCache none) _ from .step rfl .readCache)
    have h₃ := h₂.next (show Next _ _ _ (.stepped 0 .readGeneration 0) _ from
      .step rfl .readGeneration)
    have h₄ := h₃.next (show Next _ _ _ (.stepped 0 (.call (.getTorrents none)) (.ok [])) _ from
      .step rfl (.call (.list [])))
    have h₅ := h₄.next (show Next _ _ _ (.stepped 0 (.store 0 []) ()) _ from
      .step rfl (.store _ _))
    have h₆ := h₅.next (show Next _ _ _ (.returned 0 (.torrents none none) (.ok [])) _ from
      .finish rfl)
    have h₇ := h₆.next (show Next _ _ _ (.started 1 (.add [] {} .empty)) _ from .start rfl)
    have h₈ := h₇.next (show Next _ _ _ (.stepped 1 .lock ()) _ from .step rfl (.lock rfl))
    have h₉ := h₈.next (show Next _ _ _
      (.stepped 1 (.call (.addTorrent (homeClient.newTorrent [] {})))
        (.error (.communication "request timed out"))) _ from .step rfl (.call (.add [] _)))
    have h₁₀ := h₉.next (show Next _ _ _ (.stepped 1 .unlock ()) _ from .step rfl .unlock)
    have h₁₁ := h₁₀.next (show Next _ _ _ (.returned 1 (.add [] {} .empty)
      (.error (.communication "request timed out"))) _ from .finish rfl)
    have h₁₂ := h₁₁.next (show Next _ _ _ (.started 2 (.torrents none none)) _ from .start rfl)
    have h₁₃ := h₁₂.next (show Next _ _ _ (.stepped 2 .readCache (some [])) _ from
      .step rfl .readCache)
    have h₁₄ := h₁₃.next (show Next _ _ _ (.returned 2 (.torrents none none) (.ok [])) _ from
      .finish rfl)
    exact ⟨_, h₁₄, rfl⟩
  · rintro ⟨k, all, hsnapshot, hlt⟩
    have hlast : k < 14 := hsnapshot.lt_length
    obtain ⟨i, records, hevent, -⟩ := hsnapshot
    obtain rfl | rfl | rfl | rfl | rfl : k = 9 ∨ k = 10 ∨ k = 11 ∨ k = 12 ∨ k = 13 := by omega
    all_goals cases hevent

end Client

end TorrentRemote
