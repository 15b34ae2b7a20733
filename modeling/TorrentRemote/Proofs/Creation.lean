import TorrentRemote.Proofs.Config.Validation
import TorrentRemote.Proofs.Interaction
import TorrentRemote.Proofs.Registry

/-!
# Which creator makes a client

A registry makes a configured client by running one creator, and fails without running any if no
client has the name or its type was never registered.  Which creator this is, and what it is given,
depends on nothing but the client and the first registration of its type.

## Main definitions

* `Registry.Reachable` : registries after any registrations.
* `Registry.MakesClient` : the creator that is run for a client, or the error without any.

## Main results

* `Registry.Reachable.makesClient` : how a registry makes each client.
* `Registry.makes_configured_client` : what every registry of an accepted configuration does.
-/

namespace TorrentRemote.Registry

variable {Client : Type} {wrap : RemoteClient → Client} {config : Config}
  {registry : Registry Client} {history : List (Registration Client)} {name : String}
  {client : ClientConfig}

/-! ### Running creators -/

/-- No creator tells that there is no configuration. -/
theorem createClient_eq_configNotFound_iff :
    registry.createClient name = .error (.configNotFound name) ↔
      registry.config.client? name = none := by
  cases hclient : registry.config.client? name with
  | none => simp [createClient_of_unconfigured hclient]
  | some client =>
    cases hkind : registry.find? client.kind with
    | none => simp [createClient_of_unregistered hclient hkind]
    | some first =>
      rw [createClient_of_registered hclient hkind]
      cases first.create name client registry.config <;> simp [Except.mapError]

/-! ### Registries after registrations -/

/-- The registries that are made empty or with the built-in type and in which types are then
registered, each with the registrations that were attempted.  An attempt that is refused counts. -/
inductive Reachable (wrap : RemoteClient → Client) (config : Config) :
    Registry Client → List (Registration Client) → Prop
  | empty : Reachable wrap config (empty config) []
  | withDefaults (build : Rpc.HttpBuilder) : Reachable wrap config (withDefaults wrap config build)
      [⟨RemoteClient.kind, Creator.map wrap (RemoteClient.create build)⟩]
  | register {registry : Registry Client} {history : List (Registration Client)}
      (hreach : Reachable wrap config registry history) (new : Registration Client) :
      Reachable wrap config (registry.attempt new).2 (history ++ [new])

theorem config_attempt (registry : Registry Client) (new : Registration Client) :
    (registry.attempt new).2.config = registry.config := by
  by_cases hmem : new.name ∈ registry.types
  · rw [attempt_of_mem hmem]
  · obtain ⟨extended, hattempt, -, hconfig⟩ := attempt_of_not_mem hmem
    rw [hattempt, hconfig]

theorem Reachable.config_eq (h : Reachable wrap config registry history) :
    registry.config = config := by
  induction h with
  | empty => rfl
  | withDefaults _ => rfl
  | register _ new ih => rw [config_attempt, ih]

theorem Reachable.knowsFirst (h : Reachable wrap config registry history) :
    registry.KnowsFirst history := by
  induction h with
  | empty => exact knowsFirst_empty config
  | withDefaults _ => exact knowsFirst_single _ _ config
  | register _ new ih => exact ih.attempt new

/-! ### Making configured clients -/

theorem Reachable.client?_eq (h : Reachable wrap config registry history)
    (hvalid : config.validate = .ok ()) (hmem : client ∈ config.clients) :
    registry.config.client? client.name = some client := by
  rw [h.config_eq, Config.client?_eq_some_iff_of_validate hvalid]
  exact ⟨hmem, rfl⟩

theorem Reachable.clientExists_eq_false_iff (h : Reachable wrap config registry history) :
    registry.clientExists name = false ↔ ∀ client ∈ config.clients, client.name ≠ name := by
  rw [clientExists, Option.isSome_eq_false_iff, Option.isNone_iff_eq_none, h.config_eq,
    Config.client?_eq_none_iff]

/-- How a registry makes the client under a name, if `config` is its configuration and `history`
tells which registrations were attempted. -/
structure MakesClient (registry : Registry Client) (config : Config)
    (history : List (Registration Client)) (name : String) : Prop where
  /-- A client is there if one is configured. -/
  exists_iff : registry.clientExists name = true ↔ ∃ client ∈ config.clients, client.name = name
  /-- That there is no client is told for no other reason. -/
  not_exists_iff : registry.clientExists name = false ↔
    registry.createClient name = .error (.configNotFound name)
  /-- If the type of a client was never registered, no creator is run. -/
  unsupported (client : ClientConfig) : client ∈ config.clients → client.name = name →
    (∀ r ∈ history, r.name ≠ client.kind) →
    registry.creation name = .done (.error (.unsupportedType name client.kind))
  /-- Otherwise the creator that was registered first is run, once, and no other.  What it makes is
  the result, and so is the error with which it fails. -/
  makes (client : ClientConfig) (before after : List (Registration Client))
    (first : Registration Client) : client ∈ config.clients → client.name = name →
    history = before ++ first :: after → (∀ earlier ∈ before, earlier.name ≠ client.kind) →
    first.name = client.kind →
    registry.creation name = .ask ⟨first, name, client, config⟩ fun made =>
      .done (made.mapError .client)
  /-- The error of a creator is told as it is. -/
  message_eq (error : ClientError) : (RegistryError.client error).message = error.message
  /-- Where creators are functions, this is how `createClient` makes the client. -/
  run_eq : (registry.creation name).run (fun making => (pure making.outcome : Id _)) =
    registry.createClient name

theorem Reachable.makesClient (h : Reachable wrap config registry history)
    (hvalid : config.validate = .ok ()) (name : String) :
    registry.MakesClient config history name where
  exists_iff := by
    rw [← Bool.not_eq_false, h.clientExists_eq_false_iff]
    simp
  not_exists_iff := by
    rw [createClient_eq_configNotFound_iff, clientExists, Option.isSome_eq_false_iff,
      Option.isNone_iff_eq_none]
  unsupported client hmem hname hnone := by
    subst hname
    refine creation_of_unregistered (h.client?_eq hvalid hmem) ?_
    rw [h.knowsFirst.find?_eq]
    simpa using hnone
  makes client before after first hmem hname hhistory hbefore hfirst := by
    subst hname
    have hfound : registry.find? client.kind = some first := by
      rw [h.knowsFirst.find?_eq, List.find?_eq_some_iff_append]
      exact ⟨beq_iff_eq.2 hfirst, before, after, hhistory, by simpa using hbefore⟩
    rw [creation_of_registered (h.client?_eq hvalid hmem) hfound, h.config_eq]
  message_eq _ := rfl
  run_eq := rfl

/-- Two registries make a client alike: they fail with the same error and run no creator, or they
run the same creator for the same client.  Only the whole configurations that it is given differ. -/
def MakeAlike (registry registry' : Registry Client) (client : ClientConfig) : Prop :=
  (∃ error, registry.creation client.name = .done (.error error) ∧
    registry'.creation client.name = .done (.error error)) ∨
  ∃ first finish,
    registry.creation client.name = .ask ⟨first, client.name, client, registry.config⟩ finish ∧
    registry'.creation client.name = .ask ⟨first, client.name, client, registry'.config⟩ finish

theorem Reachable.makeAlike {config' : Config} {registry' : Registry Client}
    {history' : List (Registration Client)} (h : Reachable wrap config registry history)
    (h' : Reachable wrap config' registry' history') (hvalid : config.validate = .ok ())
    (hvalid' : config'.validate = .ok ()) (hmem : client ∈ config.clients)
    (hmem' : client ∈ config'.clients)
    (hfirst : (history.find? fun r => r.name == client.kind) =
      history'.find? fun r => r.name == client.kind) : MakeAlike registry registry' client := by
  have hclient := h.client?_eq hvalid hmem
  have hclient' := h'.client?_eq hvalid' hmem'
  rw [← h.knowsFirst.find?_eq, ← h'.knowsFirst.find?_eq] at hfirst
  cases hkind : registry.find? client.kind with
  | none =>
    refine .inl ⟨_, creation_of_unregistered hclient hkind, ?_⟩
    exact creation_of_unregistered hclient' (hfirst ▸ hkind)
  | some first =>
    refine .inr ⟨first, _, creation_of_registered hclient hkind, ?_⟩
    exact creation_of_registered hclient' (hfirst ▸ hkind)

/-- **Clients are made by the right creator.**  A registry of an accepted configuration makes each
configured client by running the creator that was first registered under its type with the name of
the client, its configuration and the whole configuration, and runs no other.  It fails if no client
has the name, or, without running a creator, if the type was never registered.  A registry of any
other configuration with the same client, after any other registrations of which the first of its
type is the same, makes it alike. -/
theorem makes_configured_client (hvalid : config.validate = .ok ())
    (hreach : Reachable wrap config registry history) :
    (∀ name, registry.MakesClient config history name) ∧
    ∀ (config' : Config) (registry' : Registry Client) (history' : List (Registration Client))
      (client : ClientConfig), config'.validate = .ok () →
      Reachable wrap config' registry' history' → client ∈ config.clients →
      client ∈ config'.clients →
      (history.find? fun r => r.name == client.kind) =
        (history'.find? fun r => r.name == client.kind) →
      MakeAlike registry registry' client :=
  ⟨hreach.makesClient hvalid, fun _ _ _ _ hvalid' hreach' hmem hmem' hfirst =>
    hreach.makeAlike hreach' hvalid hvalid' hmem hmem' hfirst⟩

/-- The configuration of a client that is made. -/
def homeClient : ClientConfig := ⟨"home", "fake", "http://fake.local", "", "", false, []⟩

/-- The configuration of a client whose type is not known. -/
def oddClient : ClientConfig := ⟨"odd", "deluge", "", "", "", true, []⟩

/-- What a client was made of: its name, its address and the time limit. -/
abbrev Told : Type := String × String × UInt64

/-- A creator that tells what it is given. -/
def tell : Creator Told := fun name client all => .ok (name, client.url, all.requestTimeoutSecs)

/-- A creator that fails. -/
def fail : Creator Told := fun _ _ _ => .error (.other "boom")

/-- What a built-in client was made of. -/
def toldOf (client : RemoteClient) : Told :=
  (client.name, client.config.url, client.endpoint.timeoutSecs)

/-- The first of two creators for one type makes the client, and the type of the other client is
unknown.  Without the other client, after other registrations, the client is made alike. -/
theorem makes_homeClient : ∃ registry registry' : Registry Told,
    Reachable toldOf ⟨5, [oddClient, homeClient]⟩ registry
      [⟨"fake", tell⟩, ⟨"other", fail⟩, ⟨"fake", fail⟩] ∧
    registry.createClient "home" = .ok ("home", "http://fake.local", 5) ∧
    registry.creation "odd" = .done (.error (.unsupportedType "odd" "deluge")) ∧
    registry.createClient "gone" = .error (.configNotFound "gone") ∧
    Reachable toldOf ⟨30, [homeClient]⟩ registry'
      [⟨"transmission", Creator.map toldOf (RemoteClient.create .ready)⟩, ⟨"fake", tell⟩] ∧
    MakeAlike registry registry' homeClient := by
  have hreach : Reachable toldOf ⟨5, [oddClient, homeClient]⟩ _
      [⟨"fake", tell⟩, ⟨"other", fail⟩, ⟨"fake", fail⟩] :=
    ((Reachable.empty.register _).register _).register _
  have hreach' : Reachable toldOf ⟨30, [homeClient]⟩ _
      [⟨"transmission", Creator.map toldOf (RemoteClient.create .ready)⟩, ⟨"fake", tell⟩] :=
    (Reachable.withDefaults .ready).register _
  obtain ⟨hmakes, halike⟩ := makes_configured_client rfl hreach
  refine ⟨_, _, hreach, ?_, ?_, ?_, hreach', ?_⟩
  · rw [← (hmakes "home").run_eq, (hmakes "home").makes homeClient [] _ ⟨"fake", tell⟩
      (by simp) rfl rfl nofun rfl]
    rfl
  · exact (hmakes "odd").unsupported oddClient (by simp) rfl (by decide)
  · rw [← (hmakes "gone").not_exists_iff]
    rfl
  · exact halike _ _ _ homeClient rfl hreach' (by simp) (by simp) rfl

end TorrentRemote.Registry
