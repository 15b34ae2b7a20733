import TorrentRemote.Client.Remote
import Mathlib.Data.List.Basic

/-!
# Registries after any registrations

A registry is made empty or with the built-in type, and then types are registered, some of them
perhaps twice.  Whatever the attempts are, the registry remembers of each name the first
registration and nothing else: a name that is registered already is refused, and a refusal changes
nothing.

## Main definitions

* `Registry.attempt` : a registration is attempted, and the registry afterwards.
* `Registry.afterAttempts` : a registry after any number of attempts.
* `Registry.KnowsFirst` : a registry that remembers the first registration of each name.

## Main results

* `Registry.KnowsFirst.attempt`, `Registry.KnowsFirst.afterAttempts` : one attempt and any number
  of them.
* `Registry.first_registration_wins` : what every registry remembers.
-/

namespace TorrentRemote.Registry

variable {Client : Type} {registry : Registry Client} {history : List (Registration Client)}
  {new first : Registration Client} {name : String} {client : ClientConfig}

/-! ### Attempts -/

/-- Attempts a registration: whether it succeeds, and the registry afterwards. -/
def attempt (registry : Registry Client) (new : Registration Client) :
    Except RegistryError Unit × Registry Client :=
  match registry.register new.name new.create with
  | .ok extended => (.ok (), extended)
  | .error error => (.error error, registry)

/-- The registry after attempts, one after another. -/
def afterAttempts (registry : Registry Client) (attempts : List (Registration Client)) :
    Registry Client :=
  attempts.foldl (fun registry new => (registry.attempt new).2) registry

theorem mem_types_iff : name ∈ registry.types ↔ ∃ r ∈ registry.registrations, r.name = name :=
  List.mem_map

theorem nodup_types (registry : Registry Client) : registry.types.Nodup :=
  List.pairwise_map.2 registry.distinct

theorem attempt_of_mem (h : new.name ∈ registry.types) :
    registry.attempt new = (.error (.duplicateType new.name), registry) := by
  have hnot : ¬ ∀ r ∈ registry.registrations, r.name ≠ new.name := by
    simpa using mem_types_iff.1 h
  rw [attempt, register, dif_neg hnot]

theorem attempt_of_not_mem (h : new.name ∉ registry.types) :
    ∃ extended, registry.attempt new = (.ok (), extended) ∧
      extended.registrations = registry.registrations ++ [new] ∧
      extended.config = registry.config := by
  have hnew : ∀ r ∈ registry.registrations, r.name ≠ new.name := by
    simpa [mem_types_iff] using h
  rw [attempt, register, dif_pos hnew]
  exact ⟨_, rfl, rfl, rfl⟩

theorem find?_isSome_iff : (registry.find? name).isSome ↔ name ∈ registry.types := by
  simp [find?, mem_types_iff]

/-! ### Making clients -/

theorem creation_of_unconfigured (h : registry.config.client? name = none) :
    registry.creation name = .done (.error (.configNotFound name)) := by
  rw [creation, h]

theorem creation_of_unregistered (hclient : registry.config.client? name = some client)
    (hkind : registry.find? client.kind = none) :
    registry.creation name = .done (.error (.unsupportedType name client.kind)) := by
  rw [creation, hclient]
  dsimp only
  rw [find, hkind]

theorem creation_of_registered (hclient : registry.config.client? name = some client)
    (hkind : registry.find? client.kind = some first) :
    registry.creation name = .ask ⟨first, name, client, registry.config⟩ fun made =>
      .done (made.mapError .client) := by
  rw [creation, hclient]
  dsimp only
  rw [find, hkind]

theorem createClient_of_unconfigured (h : registry.config.client? name = none) :
    registry.createClient name = .error (.configNotFound name) := by
  rw [createClient, creation_of_unconfigured h]
  rfl

theorem createClient_of_unregistered (hclient : registry.config.client? name = some client)
    (hkind : registry.find? client.kind = none) :
    registry.createClient name = .error (.unsupportedType name client.kind) := by
  rw [createClient, creation_of_unregistered hclient hkind]
  rfl

theorem createClient_of_registered (hclient : registry.config.client? name = some client)
    (hkind : registry.find? client.kind = some first) :
    registry.createClient name =
      (first.create name client registry.config).mapError .client := by
  rw [createClient, creation_of_registered hclient hkind]
  rfl

/-! ### What is remembered -/

/-- The registry remembers of each name in `history` the first registration, and nothing else.  The
types are in the order in which they first occur. -/
structure KnowsFirst (registry : Registry Client) (history : List (Registration Client)) :
    Prop where
  types_eq : registry.types = (history.map Registration.name).eraseDups
  find?_eq (name : String) : registry.find? name = history.find? fun r => r.name == name

theorem KnowsFirst.mem_types_iff (h : registry.KnowsFirst history) :
    name ∈ registry.types ↔ ∃ r ∈ history, r.name = name := by
  rw [← find?_isSome_iff, h.find?_eq]
  simp

theorem knowsFirst_empty (config : Config) : (empty config : Registry Client).KnowsFirst [] :=
  ⟨rfl, fun _ => rfl⟩

/-- A registry of one type remembers it. -/
theorem knowsFirst_single (name : String) (create : Creator Client) (config : Config) :
    (single name create config).KnowsFirst [⟨name, create⟩] :=
  ⟨by simp [types, single, List.eraseDups_cons], fun _ => rfl⟩

/-- Of names one after another, the last is one more if it did not occur before. -/
theorem eraseDups_append_singleton (names : List String) (name : String) :
    (names ++ [name]).eraseDups =
      if name ∈ names then names.eraseDups else names.eraseDups ++ [name] := by
  rw [List.eraseDups_append]
  by_cases hmem : name ∈ names
  · simp [List.removeAll, hmem]
  · simp [List.removeAll, hmem, List.eraseDups_cons]

/-- One more attempt is remembered if it is the first of its name. -/
theorem KnowsFirst.attempt (h : registry.KnowsFirst history) (new : Registration Client) :
    (registry.attempt new).2.KnowsFirst (history ++ [new]) := by
  by_cases hmem : new.name ∈ registry.types
  · -- The registry stays as it is, and what the attempt adds to the history comes second.
    have hknown : new.name ∈ history.map Registration.name :=
      List.mem_map.2 (h.mem_types_iff.1 hmem)
    rw [attempt_of_mem hmem]
    refine ⟨?_, fun name => ?_⟩
    · rw [h.types_eq, List.map_append, List.map_singleton, eraseDups_append_singleton,
        if_pos hknown]
    · rw [h.find?_eq, List.find?_append]
      by_cases hname : new.name = name
      · have hfound : (history.find? fun r => r.name == name).isSome := by
          rw [← h.find?_eq, find?_isSome_iff, ← hname]
          exact hmem
        rw [Option.or_of_isSome hfound]
      · simp [hname]
  · have hnew : new.name ∉ history.map Registration.name := fun hknown =>
      hmem (h.mem_types_iff.2 (List.mem_map.1 hknown))
    obtain ⟨extended, hattempt, hregistrations, -⟩ := attempt_of_not_mem hmem
    rw [hattempt]
    refine ⟨?_, fun name => ?_⟩
    · rw [types, hregistrations, List.map_append, ← types, h.types_eq, List.map_append,
        List.map_singleton, eraseDups_append_singleton, if_neg hnew]
    · rw [find?, hregistrations, List.find?_append, ← find?, h.find?_eq, List.find?_append]

theorem KnowsFirst.afterAttempts (h : registry.KnowsFirst history)
    (attempts : List (Registration Client)) :
    (registry.afterAttempts attempts).KnowsFirst (history ++ attempts) := by
  induction attempts generalizing registry history with
  | nil => rwa [List.append_nil]
  | cons new attempts ih =>
    rw [List.append_cons]
    exact ih (h.attempt new)

/-! ### The first registration -/

/-- How a registry behaves in which the first registration of each name in `history` counts. -/
structure FirstWins (registry : Registry Client) (history : List (Registration Client)) :
    Prop where
  /-- The types in the order in which they first occur. -/
  types_eq : registry.types = (history.map Registration.name).eraseDups
  nodup_types : registry.types.Nodup
  /-- A name that is there is refused, and the registry stays as it is. -/
  refuses (new : Registration Client) : new.name ∈ registry.types →
    registry.attempt new = (.error (.duplicateType new.name), registry)
  /-- Any other name is accepted, and comes last. -/
  accepts (new : Registration Client) : new.name ∉ registry.types →
    ∃ extended, registry.attempt new = (.ok (), extended) ∧
      extended.registrations = registry.registrations ++ [new] ∧ extended.config = registry.config
  /-- The first registration of a name is found, whatever came after it. -/
  finds (before after : List (Registration Client)) (first : Registration Client) :
    history = before ++ first :: after → (∀ earlier ∈ before, earlier.name ≠ first.name) →
      registry.find first.name = .ok first
  /-- Nothing is found exactly if the name never occurred. -/
  notFound_iff (name : String) : registry.find name = .error (.notFound name) ↔
    ∀ r ∈ history, r.name ≠ name

theorem KnowsFirst.find_eq_ok (h : registry.KnowsFirst history)
    {before after : List (Registration Client)} {first : Registration Client}
    (hhistory : history = before ++ first :: after)
    (hfirst : ∀ earlier ∈ before, earlier.name ≠ first.name) :
    registry.find first.name = .ok first := by
  have hbefore : (before.find? fun r => r.name == first.name) = none := by simpa using hfirst
  have hfound : registry.find? first.name = some first := by
    rw [h.find?_eq, hhistory, List.find?_append, hbefore, Option.none_or,
      List.find?_cons_of_pos (by simp)]
  rw [find, hfound]

theorem KnowsFirst.find_eq_error_iff (h : registry.KnowsFirst history) :
    registry.find name = .error (.notFound name) ↔ ∀ r ∈ history, r.name ≠ name := by
  have hnone : registry.find? name = none ↔ ∀ r ∈ history, r.name ≠ name := by
    simp [h.find?_eq]
  rw [← hnone, find]
  cases registry.find? name <;> simp

theorem KnowsFirst.firstWins (h : registry.KnowsFirst history) : registry.FirstWins history where
  types_eq := h.types_eq
  nodup_types := registry.nodup_types
  refuses _ := attempt_of_mem
  accepts _ := attempt_of_not_mem
  finds _ _ _ := h.find_eq_ok
  notFound_iff _ := h.find_eq_error_iff

/-- **The first registration wins.**  After any attempts, a registry that began empty has the types
of the attempts, and one that began with the built-in type has this type before them, each name once
and in the order of its first registration.  A name that is registered already is refused, and the
refusal changes nothing.  The first registration of a name is found from then on, and a name that
was never registered is not found. -/
theorem first_registration_wins (wrap : RemoteClient → Client) (config : Config)
    (build : Rpc.HttpBuilder) (attempts : List (Registration Client)) :
    ((empty config).afterAttempts attempts).FirstWins attempts ∧
      ((withDefaults wrap config build).afterAttempts attempts).FirstWins
        (⟨"transmission", Creator.map wrap (RemoteClient.create build)⟩ :: attempts) := by
  constructor
  · exact ((knowsFirst_empty config).afterAttempts attempts).firstWins
  · exact ((knowsFirst_single _ _ config).afterAttempts attempts).firstWins

/-- The built-in type keeps its place, and of two registrations of a new type the second is
refused. -/
example (wrap : RemoteClient → Client) (config : Config) (create other : Creator Client) :
    ((withDefaults wrap config).afterAttempts
      [⟨"transmission", create⟩, ⟨"deluge", create⟩, ⟨"deluge", other⟩]).types =
        ["transmission", "deluge"] :=
  rfl

end TorrentRemote.Registry
