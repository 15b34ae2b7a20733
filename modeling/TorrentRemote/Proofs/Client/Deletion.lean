import TorrentRemote.Proofs.Client.Calls

/-!
# The calls of deletions

A deletion removes the torrents one by one, whatever becomes of the single removals.  What has
failed is reported for all of them together.

## Main definitions

* `Client.failuresOf` : the failures among some removals.
* `Client.batchText` : the text for some failures.

## Main results

* `ClientError.message_batch` : the message of an error that has other errors inside.
* `Client.deleteTorrents_calls` : all calls of a deletion, with the result and the cache.
-/

namespace TorrentRemote

/-! ### Texts -/

/-- The text for some failures: how many they are, and each torrent with its error. -/
def batchText (failures : List (String × ClientError)) : String :=
  "batch operation failed: " ++ Text.showNat failures.length ++ " item(s) failed: " ++
    String.intercalate "; " (failures.map fun failure => failure.1 ++ ": " ++ failure.2.message)

theorem ClientError.failureTexts_eq_map (failures : List (String × ClientError)) :
    failureTexts failures =
      failures.map fun failure => failure.1 ++ ": " ++ failure.2.message := by
  induction failures with
  | nil => rw [failureTexts, List.map_nil]
  | cons failure failures ih => rw [failureTexts, failureText, ih, List.map_cons]

/-- The message of a batch is made of the messages of its errors, which may be batches again. -/
theorem ClientError.message_batch {failures : List (String × ClientError)} (h : failures ≠ []) :
    message (.batch failures) = batchText failures := by
  obtain ⟨failure, failures, rfl⟩ := List.exists_cons_of_ne_nil h
  have hsign : " item(s) failed: " = " item(s) failed" ++ ": " := by decide
  unfold batchText
  rw [hsign, ← failureTexts_eq_map, ← String.append_assoc]
  rfl

theorem batchOutcome_eq_ok_iff {failures : List (String × ClientError)} :
    batchOutcome failures = .ok () ↔ failures = [] := by
  cases failures with
  | nil => exact iff_of_true rfl rfl
  | cons failure failures => exact iff_of_false nofun nofun

theorem batchOutcome_eq_error_iff {failures : List (String × ClientError)} {error : ClientError} :
    batchOutcome failures = .error error ↔ failures ≠ [] ∧ error = .batch failures := by
  cases failures with
  | nil => exact iff_of_false nofun fun h => h.1 rfl
  | cons failure failures => simp [batchOutcome, eq_comm]

namespace Client

open Daemon

variable {σ : Type} {server : Server σ} {cache : Cache} {d : σ} {log : List Exchange}

/-! ### Removals -/

/-- The failures among some removals, each with the hash of its torrent. -/
def failuresOf (removals : List (String × Except ClientError Unit)) :
    List (String × ClientError) :=
  removals.filterMap fun
    | (_, .ok _) => none
    | (hash, .error error) => some (hash, error)

theorem failuresOf_eq_nil_iff {removals : List (String × Except ClientError Unit)} :
    failuresOf removals = [] ↔ ∀ removal ∈ removals, removal.2 = .ok () := by
  rw [failuresOf, List.filterMap_eq_nil_iff]
  refine forall₂_congr fun removal _ => ?_
  obtain ⟨hash, answer⟩ := removal
  cases answer <;> simp

/-- The call for the removal of one torrent, with its answer. -/
def removalCall (deleteFiles : Bool) (removal : String × Except ClientError Unit) : Exchange :=
  ⟨.removeTorrents [removal.1] deleteFiles, removal.2⟩

/-- Every torrent is removed by a call of its own, also after others have failed. -/
theorem exists_removals_of_ends {hashes : List String} {deleteFiles : Bool}
    {failures : List (String × ClientError)} {s' : Cache × σ × List Exchange}
    (hends : Ends server.recorded (removeEach deleteFiles hashes) (cache, d, log) failures s') :
    ∃ d' removals, s' = (cache, d', log ++ removals.map (removalCall deleteFiles)) ∧
      removals.map Prod.fst = hashes ∧ failures = failuresOf removals := by
  induction hashes generalizing d log failures s' with
  | nil =>
    obtain ⟨rfl, rfl⟩ := ends_done_iff.1 hends
    exact ⟨d, [], by rw [List.map_nil, List.append_nil], rfl, rfl⟩
  | cons hash hashes ih =>
    obtain ⟨answer, s₁, hcall, hrest⟩ := ends_bind_iff.1 hends
    obtain ⟨others, s₂, hothers, hlast⟩ := ends_bind_iff.1 hrest
    obtain ⟨d₁, rfl⟩ := eq_of_ends_perform hcall
    obtain ⟨d', removals, rfl, rfl, rfl⟩ := ih hothers
    -- A failure is put before those of the other torrents.
    obtain ⟨rfl, rfl⟩ : failures = failuresOf ((hash, answer) :: removals) ∧ s' = (cache, d',
        log ++ [⟨_, answer⟩] ++ removals.map (removalCall deleteFiles)) := by
      cases answer <;> exact ends_done_iff.1 hlast
    refine ⟨d', (hash, answer) :: removals, ?_, rfl, rfl⟩
    rw [List.append_assoc, List.singleton_append]
    rfl

/-! ### Deleting -/

/-- **All calls of a deletion.**  Whatever the daemon answers, a deletion removes each torrent of
the list by a call of its own, in the order of the list.  It succeeds if all removals do.  Otherwise
the failures are reported in the same order, each with its own error, also if this is a report of
failures itself.  In both cases the cache is empty then, unless the list was. -/
theorem deleteTorrents_calls (server : Server σ) (cache : Cache) (d : σ) (hashes : List String)
    (deleteFiles : Bool) :
    ∃ (result : Except ClientError Unit) (cache' : Cache) (d' : σ)
      (removals : List (String × Except ClientError Unit)),
      Ends server.recorded (deleteTorrents hashes deleteFiles).run (cache, d, []) result
        (cache', d', removals.map fun removal =>
          ⟨.removeTorrents [removal.1] deleteFiles, removal.2⟩) ∧
      removals.map Prod.fst = hashes ∧
      (result = .ok () ↔ ∀ removal ∈ removals, removal.2 = .ok ()) ∧
      (∀ error, result = .error error → error = .batch (failuresOf removals) ∧
        error.message = batchText (failuresOf removals)) ∧
      cache' = if hashes = [] then cache else cache.invalidate := by
  obtain ⟨result, s', hends⟩ : ∃ result s', Ends server.recorded
      (deleteTorrents hashes deleteFiles).run (cache, d, []) result s' := exists_ends
  have hrun := hends
  rw [deleteTorrents, ends_exclusively_iff] at hrun
  obtain ⟨failures, s₁, hremove, hrest⟩ := ends_bind_iff.1 hrun
  obtain ⟨d', removals, rfl, rfl, rfl⟩ := exists_removals_of_ends hremove
  obtain ⟨rfl, rfl⟩ : result = batchOutcome (failuresOf removals) ∧ s' =
      (if removals.map Prod.fst = [] then cache else cache.invalidate, d',
        removals.map (removalCall deleteFiles)) := by
    cases removals with
    | nil => exact ends_done_iff.1 hrest
    | cons removal removals => exact ends_done_iff.1 (ends_invalidate_iff.1 hrest)
  refine ⟨_, _, d', removals, hends, rfl, ?_, fun error herror => ?_, rfl⟩
  · rw [batchOutcome_eq_ok_iff, failuresOf_eq_nil_iff]
  · obtain ⟨hfailed, rfl⟩ := batchOutcome_eq_error_iff.1 herror
    exact ⟨rfl, ClientError.message_batch hfailed⟩

end Client

end TorrentRemote
