import TorrentRemote.Interaction
import Mathlib.Data.List.Basic

/-!
# Histories of interactions

A history is the list of questions that an interaction has asked, each with its answer.  What an
interaction can do is which histories it has and how it goes on after each of them.

## Main definitions

* `Interaction.Leads` : an interaction has a history and goes on as another interaction.
* `Interaction.Asks` : every question an interaction may ever ask has a property.

## Main results

* `Interaction.leads_bind_iff`, `Interaction.leads_bind_done_iff` : the histories of one interaction
  after another.
-/

namespace TorrentRemote.Interaction

variable {Question : Type} {Answer : Question → Type} {α β : Type}

/-- Questions with their answers, in the order in which they were asked. -/
abbrev History (Question : Type) (Answer : Question → Type) : Type :=
  List ((question : Question) × Answer question)

/-- The interaction `x` asks the questions of a history, gets its answers, and goes on as `y`. -/
inductive Leads : Interaction Question Answer α → History Question Answer →
    Interaction Question Answer α → Prop
  | refl (x : Interaction Question Answer α) : Leads x [] x
  | ask {question : Question} {next : Answer question → Interaction Question Answer α}
      {answer : Answer question} {h : History Question Answer}
      {y : Interaction Question Answer α} (hnext : Leads (next answer) h y) :
      Leads (.ask question next) (⟨question, answer⟩ :: h) y

/-- Every question that an interaction may ask, whatever the answers, has the property `p`. -/
def Asks (p : Question → Prop) : Interaction Question Answer α → Prop
  | done _ => True
  | ask question next => p question ∧ ∀ answer, (next answer).Asks p

/-! ### Histories -/

@[simp] theorem leads_done_iff {value : α} {h : History Question Answer}
    {y : Interaction Question Answer α} : Leads (.done value) h y ↔ h = [] ∧ y = .done value := by
  constructor
  · rintro ⟨⟩
    exact ⟨rfl, rfl⟩
  · rintro ⟨rfl, rfl⟩
    exact .refl _

theorem leads_ask_iff {question : Question}
    {next : Answer question → Interaction Question Answer α} {h : History Question Answer}
    {y : Interaction Question Answer α} :
    Leads (.ask question next) h y ↔ (h = [] ∧ y = .ask question next) ∨
      ∃ answer h', h = ⟨question, answer⟩ :: h' ∧ Leads (next answer) h' y := by
  constructor
  · intro hleads
    cases hleads with
    | refl => exact .inl ⟨rfl, rfl⟩
    | ask hnext => exact .inr ⟨_, _, rfl, hnext⟩
  · rintro (⟨rfl, rfl⟩ | ⟨answer, h', rfl, hnext⟩)
    · exact .refl _
    · exact .ask hnext

/-- The complete histories of a question and what follows its answer. -/
@[simp] theorem leads_ask_done_iff {question : Question}
    {next : Answer question → Interaction Question Answer α} {h : History Question Answer}
    {value : α} : Leads (.ask question next) h (.done value) ↔
      ∃ answer h', h = ⟨question, answer⟩ :: h' ∧ Leads (next answer) h' (.done value) := by
  simp [leads_ask_iff]

theorem Leads.trans {x y z : Interaction Question Answer α} {h₁ h₂ : History Question Answer}
    (hxy : Leads x h₁ y) (hyz : Leads y h₂ z) : Leads x (h₁ ++ h₂) z := by
  induction hxy with
  | refl => exact hyz
  | ask _ ih => exact .ask (ih hyz)

theorem Leads.bind {x y : Interaction Question Answer α} {h : History Question Answer}
    (hxy : Leads x h y) (f : α → Interaction Question Answer β) :
    Leads (x.bind f) h (y.bind f) := by
  induction hxy with
  | refl => exact .refl _
  | ask _ ih => exact .ask ih

/-- One more answer. -/
theorem Leads.snoc {x : Interaction Question Answer α} {h : History Question Answer}
    {question : Question} {next : Answer question → Interaction Question Answer α}
    (hleads : Leads x h (.ask question next)) (answer : Answer question) :
    Leads x (h ++ [⟨question, answer⟩]) (next answer) :=
  hleads.trans (.ask (.refl _))

/-- A history of one interaction after another belongs to the first alone, or it begins with a
complete history of the first and goes on with one of the second. -/
theorem leads_bind_iff {x : Interaction Question Answer α}
    {f : α → Interaction Question Answer β} {h : History Question Answer}
    {z : Interaction Question Answer β} :
    Leads (x.bind f) h z ↔ (∃ y, Leads x h y ∧ z = y.bind f) ∨
      ∃ h₁ h₂ value, h = h₁ ++ h₂ ∧ Leads x h₁ (.done value) ∧ Leads (f value) h₂ z := by
  constructor
  · intro hleads
    induction x generalizing h with
    | done value => exact .inr ⟨[], h, value, rfl, .refl _, hleads⟩
    | ask question next ih =>
      rcases leads_ask_iff.1 hleads with ⟨rfl, rfl⟩ | ⟨answer, h', rfl, hnext⟩
      · exact .inl ⟨_, .refl _, rfl⟩
      · rcases ih answer hnext with ⟨y, hy, rfl⟩ | ⟨h₁, h₂, value, rfl, hx, hf⟩
        · exact .inl ⟨y, .ask hy, rfl⟩
        · exact .inr ⟨_ :: h₁, h₂, value, rfl, .ask hx, hf⟩
  · rintro (⟨y, hy, rfl⟩ | ⟨h₁, h₂, value, rfl, hx, hf⟩)
    · exact hy.bind f
    · exact (hx.bind f).trans hf

/-- The complete histories of one interaction after another. -/
theorem leads_bind_done_iff {x : Interaction Question Answer α}
    {f : α → Interaction Question Answer β} {h : History Question Answer} {value : β} :
    Leads (x.bind f) h (.done value) ↔
      ∃ h₁ h₂ v, h = h₁ ++ h₂ ∧ Leads x h₁ (.done v) ∧ Leads (f v) h₂ (.done value) := by
  rw [leads_bind_iff]
  constructor
  · rintro (⟨y, hy, hdone⟩ | hsplit)
    · cases y with
      | done v =>
        refine ⟨h, [], v, (List.append_nil h).symm, hy, ?_⟩
        rw [hdone]
        exact .refl _
      | ask question next => cases hdone
    · exact hsplit
  · exact .inr

/-! ### Running -/

/-- An interaction after another is run by running one after the other. -/
theorem run_bind {α β : Type} {m : Type → Type} [Monad m] [LawfulMonad m]
    (answer : (question : Question) → m (Answer question)) (x : Interaction Question Answer α)
    (f : α → Interaction Question Answer β) :
    (x.bind f).run answer = x.run answer >>= fun value => (f value).run answer := by
  induction x with
  | done value => rw [bind, run, pure_bind]
  | ask question next ih => simp only [bind, run, ih, bind_assoc]

/-! ### Questions -/

theorem Asks.bind {p : Question → Prop} {x : Interaction Question Answer α}
    {f : α → Interaction Question Answer β} (hx : x.Asks p) (hf : ∀ value, (f value).Asks p) :
    (x.bind f).Asks p := by
  induction x with
  | done value => exact hf value
  | ask question next ih => exact ⟨hx.1, fun answer => ih answer (hx.2 answer)⟩

theorem Asks.mono {p q : Question → Prop} {x : Interaction Question Answer α} (hx : x.Asks p)
    (h : ∀ question, p question → q question) : x.Asks q := by
  induction x with
  | done value => trivial
  | ask question next ih => exact ⟨h question hx.1, fun answer => ih answer (hx.2 answer)⟩

theorem Asks.of_leads {p : Question → Prop} {x y : Interaction Question Answer α}
    {h : History Question Answer} (hx : x.Asks p) (hleads : Leads x h y) : y.Asks p := by
  induction hleads with
  | refl => exact hx
  | ask _ ih => exact ih (hx.2 _)

/-- What an interaction has asked is what it may ask. -/
theorem Asks.of_mem {p : Question → Prop} {x y : Interaction Question Answer α}
    {h : History Question Answer} (hx : x.Asks p) (hleads : Leads x h y) :
    ∀ entry ∈ h, p entry.1 := by
  induction hleads with
  | refl => exact fun entry hentry => absurd hentry List.not_mem_nil
  | ask _ ih => exact List.forall_mem_cons.2 ⟨hx.1, ih (hx.2 _)⟩

end TorrentRemote.Interaction
