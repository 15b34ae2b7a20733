import TorrentRemote.Client.Listing
import TorrentRemote.Client.Mutation
import TorrentRemote.Client.Settings
import TorrentRemote.Proofs.Interaction

/-!
# Histories of client operations

An operation is an interaction whose value is a result or an error.  The histories of composed
operations are those of their parts, one after another; an error ends them early.

## Main results

* `Client.leads_bind_ok_iff`, `Client.leads_followedBy_iff`, `Client.leads_exclusively_iff` : the
  histories of composed operations.
* `Client.asks_bind`, `Client.asks_followedBy`, `Client.asks_exclusively` : the steps that composed
  operations may take.
-/

namespace TorrentRemote.Client

open Interaction

variable {α β : Type}

/-- The history of an operation. -/
abbrev History : Type := Interaction.History Step Step.Result

/-! ### Composed operations -/

theorem run_bind (x : Operation α) (f : α → Operation β) :
    (x >>= f).run = x.run.bind fun
      | .ok value => (f value).run
      | .error error => .done (.error error) := by
  change x.run.bind _ = _
  congr 1
  funext result
  cases result <;> rfl

theorem run_perform (call : Daemon.Call) : (perform call).run = .ask (.call call) .done := rfl

theorem run_step (s : Step) : (step s).run = .ask s fun result => .done (.ok result) := rfl

theorem run_followedBy (operation : Operation α) (last : Step) :
    (followedBy operation last).run =
      operation.run.bind fun result => .ask last fun _ => .done result := rfl

theorem run_exclusively (operation : Operation α) :
    (exclusively operation).run =
      .ask .lock fun _ => operation.run.bind fun result => .ask .unlock fun _ => .done result := by
  rw [exclusively, run_bind, run_step]
  rfl

theorem leads_perform_iff {call : Daemon.Call} {h : History}
    {result : Except ClientError call.Answer} :
    Leads (perform call).run h (.done result) ↔ h = [⟨.call call, result⟩] := by
  rw [run_perform, leads_ask_done_iff]
  simp only [leads_done_iff, done.injEq]
  constructor
  · rintro ⟨answer, h', rfl, rfl, rfl⟩
    rfl
  · rintro rfl
    exact ⟨result, [], rfl, rfl, rfl⟩

/-- An operation after another ends with an error of the first, or as the second does. -/
theorem leads_operation_bind_iff {x : Operation α} {f : α → Operation β} {h : History}
    {result : Except ClientError β} :
    Leads (x >>= f).run h (.done result) ↔
      (∃ error, result = .error error ∧ Leads x.run h (.done (.error error))) ∨
      ∃ h₁ h₂ v, h = h₁ ++ h₂ ∧ Leads x.run h₁ (.done (.ok v)) ∧
        Leads (f v).run h₂ (.done result) := by
  rw [run_bind, leads_bind_done_iff]
  constructor
  · rintro ⟨h₁, h₂, outcome, rfl, hx, hf⟩
    cases outcome with
    | ok v => exact .inr ⟨h₁, h₂, v, rfl, hx, hf⟩
    | error error =>
      obtain ⟨rfl, heq⟩ := leads_done_iff.1 hf
      cases heq
      exact .inl ⟨error, rfl, by rwa [List.append_nil]⟩
  · rintro (⟨error, rfl, hx⟩ | ⟨h₁, h₂, v, rfl, hx, hf⟩)
    · exact ⟨h, [], .error error, (List.append_nil h).symm, hx, .refl _⟩
    · exact ⟨h₁, h₂, .ok v, rfl, hx, hf⟩

/-- An operation after another succeeds if both do. -/
theorem leads_bind_ok_iff {x : Operation α} {f : α → Operation β} {h : History} {value : β} :
    Leads (x >>= f).run h (.done (.ok value)) ↔ ∃ h₁ h₂ v, h = h₁ ++ h₂ ∧
      Leads x.run h₁ (.done (.ok v)) ∧ Leads (f v).run h₂ (.done (.ok value)) := by
  rw [leads_operation_bind_iff]
  exact or_iff_right fun ⟨_, heq, _⟩ => nomatch heq

theorem leads_followedBy_iff {operation : Operation α} {last : Step} {h : History}
    {result : Except ClientError α} :
    Leads (followedBy operation last).run h (.done result) ↔
      ∃ h' answer, h = h' ++ [⟨last, answer⟩] ∧ Leads operation.run h' (.done result) := by
  rw [run_followedBy, leads_bind_done_iff]
  constructor
  · rintro ⟨h₁, h₂, r, rfl, hop, hlast⟩
    obtain ⟨answer, h', rfl, hdone⟩ := leads_ask_done_iff.1 hlast
    obtain ⟨rfl, heq⟩ := leads_done_iff.1 hdone
    cases heq
    exact ⟨h₁, answer, rfl, hop⟩
  · rintro ⟨h', answer, rfl, hop⟩
    exact ⟨h', _, result, rfl, hop, .ask (.refl _)⟩

theorem leads_exclusively_iff {operation : Operation α} {h : History}
    {result : Except ClientError α} :
    Leads (exclusively operation).run h (.done result) ↔
      ∃ h', h = ⟨.lock, ()⟩ :: h' ++ [⟨.unlock, ()⟩] ∧ Leads operation.run h' (.done result) := by
  rw [run_exclusively, ← run_followedBy, leads_ask_done_iff]
  simp only [leads_followedBy_iff]
  constructor
  · rintro ⟨⟨⟩, h', rfl, h₁, ⟨⟩, rfl, hop⟩
    exact ⟨h₁, rfl, hop⟩
  · rintro ⟨h', rfl, hop⟩
    exact ⟨(), h' ++ [⟨.unlock, ()⟩], rfl, h', (), rfl, hop⟩

theorem asks_bind {p : Step → Prop} {x : Operation α} {f : α → Operation β}
    (hx : x.run.Asks p) (hf : ∀ value, (f value).run.Asks p) : (x >>= f).run.Asks p := by
  rw [run_bind]
  refine hx.bind fun result => ?_
  cases result with
  | ok value => exact hf value
  | error error => trivial

theorem asks_perform {p : Step → Prop} {call : Daemon.Call} (h : p (.call call)) :
    (perform call).run.Asks p :=
  ⟨h, fun _ => trivial⟩

theorem asks_followedBy {p : Step → Prop} {operation : Operation α} {last : Step}
    (hop : operation.run.Asks p) (hlast : p last) : (followedBy operation last).run.Asks p :=
  hop.bind fun _ => ⟨hlast, fun _ => trivial⟩

theorem asks_exclusively {p : Step → Prop} {operation : Operation α} (hlock : p .lock)
    (hop : operation.run.Asks p) (hunlock : p .unlock) : (exclusively operation).run.Asks p := by
  rw [run_exclusively]
  exact ⟨hlock, fun _ => asks_followedBy hop hunlock⟩

end TorrentRemote.Client
