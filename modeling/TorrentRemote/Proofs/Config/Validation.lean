import TorrentRemote.Config.Basic
import TorrentRemote.Proofs.Lookup
import Mathlib.Order.Bounds.Basic

/-!
# Validation of configurations

A configuration is refused for the first of its clients that has a blank type or the name of a
client before it, and accepted if there is none.  In an accepted configuration each client is found
by its name.

## Main definitions

* `Config.FaultyAt` : a client at some place has a blank type or the name of a client before it.
* `Config.refusalOf` : why a faulty client is refused.

## Main results

* `Config.validateFrom_eq_ok_iff`, `Config.validateFrom_eq_error_iff` : which clients are accepted,
  and for which of them others are refused.
* `Config.validates_exactly` : validation, and what it means for finding clients.
-/

namespace TorrentRemote

theorem ClientConfig.hasBlankKind_iff {client : ClientConfig} :
    client.hasBlankKind ↔ Text.trim client.kind = "" := by
  rw [hasBlankKind, decide_eq_true_eq, Text.trim, ← String.toList_inj, String.toList_ofList]
  rfl

namespace Config

variable {taken : List String} {client : ClientConfig} {clients : List ClientConfig} {i : Nat}
  {e : ConfigError}

/-- The client at a place has a blank type, or its name is taken: by one of the names `taken`, or by
a client before it. -/
def FaultyAfter (taken : List String) (clients : List ClientConfig) (i : Nat) : Prop :=
  ∃ h : i < clients.length, Text.trim clients[i].kind = "" ∨
    clients[i].name ∈ taken ++ (clients.take i).map ClientConfig.name

/-- Why a faulty client is refused. -/
def refusalOf (client : ClientConfig) : ConfigError :=
  if Text.trim client.kind = "" then .missingType client.name else .duplicateClient client.name

/-! ### One client after another -/

theorem validateFrom_cons_of_faulty (h : Text.trim client.kind = "" ∨ client.name ∈ taken)
    (clients : List ClientConfig) :
    validateFrom taken (client :: clients) = .error (refusalOf client) := by
  by_cases hblank : Text.trim client.kind = ""
  · rw [validateFrom, if_pos (ClientConfig.hasBlankKind_iff.2 hblank), refusalOf, if_pos hblank]
  · rw [validateFrom, if_neg (mt ClientConfig.hasBlankKind_iff.1 hblank),
      if_pos (h.resolve_left hblank), refusalOf, if_neg hblank]

theorem validateFrom_cons_of_not_faulty
    (h : ¬ (Text.trim client.kind = "" ∨ client.name ∈ taken)) (clients : List ClientConfig) :
    validateFrom taken (client :: clients) = validateFrom (client.name :: taken) clients := by
  obtain ⟨hblank, hname⟩ := not_or.1 h
  rw [validateFrom, if_neg (mt ClientConfig.hasBlankKind_iff.1 hblank), if_neg hname]

theorem faultyAfter_cons_zero_iff :
    FaultyAfter taken (client :: clients) 0 ↔ Text.trim client.kind = "" ∨ client.name ∈ taken := by
  simp [FaultyAfter]

/-- After the first client, its name is taken. -/
theorem faultyAfter_cons_succ_iff :
    FaultyAfter taken (client :: clients) (i + 1) ↔
      FaultyAfter (client.name :: taken) clients i := by
  simp [FaultyAfter, or_left_comm]

/-- If the first client is not faulty, the first faulty one is that of the others. -/
theorem isLeast_cons_succ_iff (h : ¬ (Text.trim client.kind = "" ∨ client.name ∈ taken)) :
    IsLeast {j | FaultyAfter taken (client :: clients) j} (i + 1) ↔
      IsLeast {j | FaultyAfter (client.name :: taken) clients j} i := by
  constructor
  · rintro ⟨hfaulty, hleast⟩
    refine ⟨faultyAfter_cons_succ_iff.1 hfaulty, fun j hj => ?_⟩
    exact Nat.le_of_succ_le_succ (hleast (faultyAfter_cons_succ_iff.2 hj))
  · rintro ⟨hfaulty, hleast⟩
    refine ⟨faultyAfter_cons_succ_iff.2 hfaulty, fun j hj => ?_⟩
    cases j with
    | zero => exact absurd (faultyAfter_cons_zero_iff.1 hj) h
    | succ j => exact Nat.succ_le_succ (hleast (faultyAfter_cons_succ_iff.1 hj))

/-- Clients are accepted if all have a type and their names are new and distinct. -/
theorem validateFrom_eq_ok_iff : validateFrom taken clients = .ok () ↔
    (∀ client ∈ clients, Text.trim client.kind ≠ "" ∧ client.name ∉ taken) ∧
      (clients.map ClientConfig.name).Nodup := by
  induction clients generalizing taken with
  | nil => simp [validateFrom]
  | cons client clients ih =>
    rw [List.forall_mem_cons, List.map_cons, List.nodup_cons]
    by_cases h : Text.trim client.kind = "" ∨ client.name ∈ taken
    · rw [validateFrom_cons_of_faulty h]
      refine iff_of_false nofun ?_
      rintro ⟨⟨⟨hkind, hname⟩, -⟩, -⟩
      exact h.elim hkind hname
    · -- That its name is taken for the others is that their names differ from it.
      rw [validateFrom_cons_of_not_faulty h, ih]
      grind

/-- Clients are refused for the first faulty one. -/
theorem validateFrom_eq_error_iff : validateFrom taken clients = .error e ↔
    ∃ i, ∃ h : i < clients.length,
      IsLeast {j | FaultyAfter taken clients j} i ∧ e = refusalOf clients[i] := by
  induction clients generalizing taken with
  | nil => simp [validateFrom]
  | cons client clients ih =>
    by_cases hfaulty : Text.trim client.kind = "" ∨ client.name ∈ taken
    · -- The first client is the least faulty one.
      have hleast : IsLeast {j | FaultyAfter taken (client :: clients) j} 0 :=
        ⟨faultyAfter_cons_zero_iff.2 hfaulty, fun j _ => Nat.zero_le j⟩
      rw [validateFrom_cons_of_faulty hfaulty, Except.error.injEq]
      constructor
      · intro he
        exact ⟨0, Nat.zero_lt_succ _, hleast, he.symm⟩
      · rintro ⟨i, _, hi, he⟩
        obtain rfl := hi.unique hleast
        exact he.symm
    · rw [validateFrom_cons_of_not_faulty hfaulty, ih]
      constructor
      · rintro ⟨i, hi, hleast, he⟩
        exact ⟨i + 1, Nat.succ_lt_succ hi, (isLeast_cons_succ_iff hfaulty).2 hleast, he⟩
      · rintro ⟨i, hi, hleast, he⟩
        cases i with
        | zero => exact absurd (faultyAfter_cons_zero_iff.1 hleast.1) hfaulty
        | succ i =>
          exact ⟨i, Nat.lt_of_succ_lt_succ hi, (isLeast_cons_succ_iff hfaulty).1 hleast, he⟩

/-! ### Configurations -/

variable {config : Config}

/-- The client at a place has a blank type, or a client before it has its name. -/
def FaultyAt (config : Config) (i : Nat) : Prop :=
  ∃ h : i < config.clients.length, Text.trim config.clients[i].kind = "" ∨
    ∃ j, ∃ _ : j < i, config.clients[j].name = config.clients[i].name

theorem faultyAfter_nil_iff : FaultyAfter [] config.clients i ↔ config.FaultyAt i := by
  refine exists_congr fun h => or_congr_right ?_
  rw [List.nil_append, List.mem_map]
  constructor
  · rintro ⟨earlier, hearlier, hname⟩
    obtain ⟨j, hj, rfl⟩ := List.mem_take_iff_getElem.1 hearlier
    exact ⟨j, by omega, hname⟩
  · rintro ⟨j, hj, hname⟩
    exact ⟨_, List.mem_take_iff_getElem.2 ⟨j, by omega, rfl⟩, hname⟩

/-- In a configuration that was accepted, the client with a name is the one that is found. -/
theorem client?_eq_some_iff_of_validate (h : config.validate = .ok ()) {name : String} :
    config.client? name = some client ↔ client ∈ config.clients ∧ client.name = name :=
  Lookup.find?_eq_some_iff_of_nodup (validateFrom_eq_ok_iff.1 h).2

theorem client?_eq_none_iff {name : String} :
    config.client? name = none ↔ ∀ client ∈ config.clients, client.name ≠ name := by
  simp [client?]

/-- **Validation is exact.**  A configuration is accepted exactly if no client has a blank type and
the names of the clients are distinct.  Otherwise it is refused for the first client that has a
blank type or the name of a client before it, and a blank type is told rather than the name.  If it
is accepted, each of its clients is found by its name, and nothing is found under other names. -/
theorem validates_exactly (config : Config) :
    (config.validate = .ok () ↔
      (∀ client ∈ config.clients, Text.trim client.kind ≠ "") ∧
        (config.clients.map ClientConfig.name).Nodup) ∧
    (∀ e, config.validate = .error e ↔ ∃ i, ∃ h : i < config.clients.length,
      IsLeast {j | config.FaultyAt j} i ∧ e = refusalOf config.clients[i]) ∧
    (config.validate = .ok () →
      (∀ client ∈ config.clients, config.client? client.name = some client) ∧
      ∀ name, config.client? name = none ↔ ∀ client ∈ config.clients, client.name ≠ name) := by
  refine ⟨?_, fun e => ?_, fun h => ⟨fun client hmem => ?_, fun name => client?_eq_none_iff⟩⟩
  · rw [validate, validateFrom_eq_ok_iff]
    simp
  · rw [validate, validateFrom_eq_error_iff]
    simp only [faultyAfter_nil_iff]
  · exact (client?_eq_some_iff_of_validate h).2 ⟨hmem, rfl⟩

/-- A client whose type is blank and whose name was taken before. -/
def blankTwin : ClientConfig := ⟨"home", " \u3000", "", "", "", false, []⟩

/-- The first client of these configurations. -/
def homeBox : ClientConfig := ⟨"home", "transmission", "", "admin", "secret", false, []⟩

/-- Of the two faults of a client, the blank type is told.  Without this client, the other one is
found. -/
theorem validates_exactly_homeBox :
    (⟨30, [homeBox, blankTwin, homeBox]⟩ : Config).validate = .error (.missingType "home") ∧
    (⟨30, [homeBox]⟩ : Config).client? "home" = some homeBox := by
  constructor
  · refine ((validates_exactly _).2.1 _).2 ⟨1, by decide, ⟨⟨by decide, .inl ?_⟩, ?_⟩, ?_⟩
    · decide +kernel
    · intro j hfaulty
      refine Nat.one_le_iff_ne_zero.2 fun hzero => ?_
      subst hzero
      obtain ⟨_, hblank | ⟨k, hk, -⟩⟩ := hfaulty
      · exact absurd hblank (show Text.trim "transmission" ≠ "" by decide +kernel)
      · exact absurd hk (Nat.not_lt_zero k)
    · decide +kernel
  · exact ((validates_exactly _).2.2 rfl).1 homeBox (by simp)

end Config

end TorrentRemote
