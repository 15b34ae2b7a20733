import TorrentRemote.Proofs.Registry

/-!
# Passwords are not told

Two configurations that differ in nothing but passwords cannot be told apart by what registries
answer.  Leaving out the passwords commutes with everything that a registry does with its
configuration: it changes no diagnostic text and no error, and a client that is made without
passwords is the client that is made with them, without its password.

## Main definitions

* `Config.withoutPasswords`, `RemoteClient.withoutPassword` : what is left without passwords.
* `Creator.IgnoresPasswords` : a creator whose outcomes are the same for all passwords.
* `Registry.Request`, `Registry.Answer`, `Registry.answers` : what a registry is asked one after
  another, and what it answers.
* `Registry.Alike` : registries that differ in passwords at most.

## Main results

* `RemoteClient.create_ignoresPasswords` : the built-in type of clients.
* `Registry.Alike.respond`, `Registry.Alike.answers` : one request and any number of them.
* `Registry.answers_without_passwords` : what is the same for all passwords.
-/

namespace TorrentRemote

/-! ### Configurations -/

/-- A client's configuration without its password. -/
def ClientConfig.withoutPassword (config : ClientConfig) : ClientConfig :=
  { config with password := "" }

/-- A configuration without the passwords of its clients. -/
def Config.withoutPasswords (config : Config) : Config :=
  { config with clients := config.clients.map ClientConfig.withoutPassword }

/-- The diagnostic text has another text in the place of the password. -/
theorem ClientConfig.describe_comp_withoutPassword :
    ClientConfig.describe ∘ ClientConfig.withoutPassword = ClientConfig.describe := rfl

theorem ClientConfig.kind_withoutPassword (config : ClientConfig) :
    config.withoutPassword.kind = config.kind := rfl

namespace Config

variable {config config' : Config}

theorem map_describe_withoutPasswords (config : Config) :
    config.withoutPasswords.clients.map ClientConfig.describe =
      config.clients.map ClientConfig.describe := by
  rw [withoutPasswords, List.map_map, ClientConfig.describe_comp_withoutPassword]

theorem describe_withoutPasswords (config : Config) :
    config.withoutPasswords.describe = config.describe := by
  rw [describe, map_describe_withoutPasswords]
  rfl

theorem validateFrom_map_withoutPassword (seen : List String) (clients : List ClientConfig) :
    validateFrom seen (clients.map ClientConfig.withoutPassword) = validateFrom seen clients := by
  induction clients generalizing seen with
  | nil => rfl
  | cons client clients ih =>
    rw [List.map_cons, validateFrom, validateFrom, ih]
    rfl

theorem validate_withoutPasswords (config : Config) :
    config.withoutPasswords.validate = config.validate :=
  validateFrom_map_withoutPassword [] config.clients

theorem client?_withoutPasswords (config : Config) (name : String) :
    config.withoutPasswords.client? name =
      (config.client? name).map ClientConfig.withoutPassword :=
  List.find?_map

theorem isSome_client?_withoutPasswords (name : String) (config : Config) :
    (config.withoutPasswords.client? name).isSome = (config.client? name).isSome := by
  rw [client?_withoutPasswords, Option.isSome_map]

theorem map_describe_client?_withoutPasswords (name : String) (config : Config) :
    (config.withoutPasswords.client? name).map ClientConfig.describe =
      (config.client? name).map ClientConfig.describe := by
  rw [client?_withoutPasswords, Option.map_map, ClientConfig.describe_comp_withoutPassword]

/-- What does not depend on passwords is the same for configurations that differ in passwords at
most. -/
theorem eq_of_withoutPasswords_eq {α : Type} (f : Config → α)
    (hf : ∀ config, f config.withoutPasswords = f config)
    (h : config.withoutPasswords = config'.withoutPasswords) : f config = f config' := by
  rw [← hf config, h, hf config']

/-- Configurations that differ in passwords at most have clients of the same names, which differ in
their passwords at most. -/
theorem client?_of_withoutPasswords_eq (h : config.withoutPasswords = config'.withoutPasswords)
    (name : String) : (config.client? name = none ∧ config'.client? name = none) ∨
      ∃ client client', config.client? name = some client ∧ config'.client? name = some client' ∧
        client.withoutPassword = client'.withoutPassword := by
  have hfound := congrArg (fun config => config.client? name) h
  simp only [client?_withoutPasswords] at hfound
  cases hclient : config.client? name with
  | none =>
    rw [hclient, Option.map_none, eq_comm, Option.map_eq_none_iff] at hfound
    exact .inl ⟨rfl, hfound⟩
  | some client =>
    rw [hclient, Option.map_some, eq_comm, Option.map_eq_some_iff] at hfound
    obtain ⟨client', hclient', hsame⟩ := hfound
    exact .inr ⟨client, client', rfl, hclient', hsame.symm⟩

end Config

/-! ### Outcomes -/

namespace Outcome

variable {ε ε' α β γ : Type} {f : α → β} {g : α → γ} {x y : Except ε α}

/-- What succeeds with values that look the same to `f`, or fails with the same error, also looks
the same to `g`, if `g` tells no more apart. -/
theorem map_eq_map_of_imp (hfg : ∀ a b, f a = f b → g a = g b) (h : x.map f = y.map f) :
    x.map g = y.map g := by
  cases x with
  | error error =>
    cases y with
    | error error' =>
      cases h
      rfl
    | ok b => cases h
  | ok a =>
    cases y with
    | error error' => cases h
    | ok b => exact congrArg Except.ok (hfg a b (Except.ok.inj h))

theorem map_map (k : β → γ) : (x.map f).map k = x.map fun a => k (f a) := by
  cases x <;> rfl

theorem map_mapError (k : ε → ε') : (x.mapError k).map f = (x.map f).mapError k := by
  cases x <;> rfl

end Outcome

/-! ### Creators -/

variable {Client Shown : Type} {view : Client → Shown}

/-- A creator whose outcomes are the same for all passwords: the same error, or clients that look
the same to `view`. -/
def Creator.IgnoresPasswords (create : Creator Client) (view : Client → Shown) : Prop :=
  ∀ (name : String) (config config' : ClientConfig) (all all' : Config),
    config.withoutPassword = config'.withoutPassword →
    all.withoutPasswords = all'.withoutPasswords →
    (create name config all).map view = (create name config' all').map view

namespace RemoteClient

/-- Credentials without the password. -/
def eraseCredentials (credentials : Rpc.Credentials) : Rpc.Credentials :=
  { credentials with password := "" }

/-- A client without its password, which its configuration and its credentials hold. -/
def withoutPassword (client : RemoteClient) : RemoteClient :=
  { client with
    config := client.config.withoutPassword
    endpoint.credentials := client.endpoint.credentials.map eraseCredentials }

theorem credentialsOf_withoutPassword (config : ClientConfig) :
    credentialsOf config.withoutPassword = (credentialsOf config).map eraseCredentials := by
  by_cases huser : config.username = ""
  · rw [credentialsOf, credentialsOf, if_pos huser]
    exact if_pos huser
  · rw [credentialsOf, credentialsOf, if_neg huser]
    exact if_neg huser

theorem urlOf_withoutPassword (config : ClientConfig) :
    urlOf config.withoutPassword = urlOf config := by
  have hurl : config.withoutPassword.url = config.url := rfl
  rw [urlOf, urlOf, hurl]

/-- Making a client without passwords is leaving out the password of the client that is made. -/
theorem create_withoutPassword (build : Rpc.HttpBuilder) (name : String) (config : ClientConfig)
    (all : Config) :
    create build name config.withoutPassword all.withoutPasswords =
      (create build name config all).map withoutPassword := by
  have htime : all.withoutPasswords.requestTimeoutSecs = all.requestTimeoutSecs := rfl
  simp only [create, urlOf_withoutPassword, credentialsOf_withoutPassword, htime]
  cases urlOf config with
  | error error => rfl
  | ok url => cases build all.requestTimeoutSecs <;> rfl

/-- The outcomes of the built-in creator are the same for all passwords. -/
theorem create_ignoresPasswords (build : Rpc.HttpBuilder) :
    (create build).IgnoresPasswords withoutPassword := by
  intro name config config' all all' hconfig hall
  rw [← create_withoutPassword, ← create_withoutPassword, hconfig, hall]

end RemoteClient

/-- Clients that are wrapped look the same if those inside differ in their passwords at most. -/
theorem Creator.map_ignoresPasswords {wrap : RemoteClient → Client}
    (hwrap : ∀ a b : RemoteClient, a.withoutPassword = b.withoutPassword →
      view (wrap a) = view (wrap b)) (build : Rpc.HttpBuilder) :
    (Creator.map wrap (RemoteClient.create build)).IgnoresPasswords view := by
  intro name config config' all all' hconfig hall
  rw [map, map, Outcome.map_map, Outcome.map_map]
  refine Outcome.map_eq_map_of_imp hwrap ?_
  exact RemoteClient.create_ignoresPasswords build name config config' all all' hconfig hall

namespace Registry

/-! ### Requests -/

/-- What a registry can be asked. -/
inductive Request (Client : Type) where
  | register (new : Registration Client)
  | find (name : String)
  | clientExists (name : String)
  | createClient (name : String)
  | types
  /-- The diagnostic text of the registry. -/
  | describe
  /-- The diagnostic text of a registered type. -/
  | describeType (name : String)
  /-- The diagnostic text of the configuration. -/
  | describeConfig
  /-- The diagnostic text of the configuration of a client. -/
  | describeClient (name : String)

/-- What a registry answers. -/
inductive Answer (Client : Type) where
  | registered (outcome : Except RegistryError Unit)
  | found (outcome : Except RegistryError (Registration Client))
  | configured (isConfigured : Bool)
  | created (outcome : Except RegistryError Client)
  | types (names : List String)
  /-- A diagnostic text, unless there is nothing under the name. -/
  | text (content : Option String)

/-- An answer in which clients are seen by `view`. -/
def Answer.map (view : Client → Shown) : Answer Client → Answer Shown
  | registered outcome => .registered outcome
  | found outcome => .found (outcome.map fun r => ⟨r.name, r.create.map view⟩)
  | configured isConfigured => .configured isConfigured
  | created outcome => .created (outcome.map view)
  | types names => .types names
  | text content => .text content

/-- The answer to a request, and the registry afterwards. -/
def respond (registry : Registry Client) : Request Client → Answer Client × Registry Client
  | .register new => (.registered (registry.attempt new).1, (registry.attempt new).2)
  | .find name => (.found (registry.find name), registry)
  | .clientExists name => (.configured (registry.clientExists name), registry)
  | .createClient name => (.created (registry.createClient name), registry)
  | .types => (.types registry.types, registry)
  | .describe => (.text (some registry.describe), registry)
  | .describeType name => (.text ((registry.find? name).map Registration.describe), registry)
  | .describeConfig => (.text (some registry.config.describe), registry)
  | .describeClient name =>
    (.text ((registry.config.client? name).map ClientConfig.describe), registry)

/-- The answers to requests, one after another. -/
def answers (registry : Registry Client) : List (Request Client) → List (Answer Client)
  | [] => []
  | request :: requests =>
    (registry.respond request).1 :: (registry.respond request).2.answers requests

/-! ### Registries that differ in passwords -/

/-- Registries of the same types, whose creators ignore passwords, and of configurations that differ
in passwords at most. -/
structure Alike (view : Client → Shown) (a b : Registry Client) : Prop where
  registrations : a.registrations = b.registrations
  config : a.config.withoutPasswords = b.config.withoutPasswords
  ignoresPasswords : ∀ r ∈ a.registrations, r.create.IgnoresPasswords view

namespace Alike

variable {a b : Registry Client}

theorem types_eq (h : Alike view a b) : a.types = b.types := by
  rw [types, types, h.registrations]

theorem find?_eq (h : Alike view a b) (name : String) : a.find? name = b.find? name := by
  rw [find?, find?, h.registrations]

theorem find_eq (h : Alike view a b) (name : String) : a.find name = b.find name := by
  rw [find, find, h.find?_eq]

theorem describe_eq (h : Alike view a b) : a.describe = b.describe := by
  rw [describe, describe, h.registrations,
    Config.eq_of_withoutPasswords_eq _ Config.describe_withoutPasswords h.config]

theorem clientExists_eq (h : Alike view a b) (name : String) :
    a.clientExists name = b.clientExists name :=
  Config.eq_of_withoutPasswords_eq (fun config => (config.client? name).isSome)
    (Config.isSome_client?_withoutPasswords name) h.config

theorem describeClient_eq (h : Alike view a b) (name : String) :
    (a.config.client? name).map ClientConfig.describe =
      (b.config.client? name).map ClientConfig.describe :=
  Config.eq_of_withoutPasswords_eq (fun config => (config.client? name).map ClientConfig.describe)
    (Config.map_describe_client?_withoutPasswords name) h.config

/-- Clients that are created look the same, and creation fails with the same error. -/
theorem createClient_eq (h : Alike view a b) (name : String) :
    (a.createClient name).map view = (b.createClient name).map view := by
  obtain ⟨ha, hb⟩ | ⟨client, client', ha, hb, hsame⟩ :=
    Config.client?_of_withoutPasswords_eq h.config name
  · rw [createClient_of_unconfigured ha, createClient_of_unconfigured hb]
  · have hkind : client'.kind = client.kind := by
      rw [← client'.kind_withoutPassword, ← hsame, client.kind_withoutPassword]
    have hfind := h.find?_eq client.kind
    rw [← hkind] at hfind
    cases hfound : b.find? client'.kind with
    | none =>
      rw [createClient_of_unregistered ha (hkind ▸ hfind.trans hfound),
        createClient_of_unregistered hb hfound, hkind]
    | some registration =>
      have hmem : registration ∈ a.registrations :=
        List.mem_of_find?_eq_some (hfind.trans hfound)
      have hcreated := h.ignoresPasswords registration hmem name client client' a.config b.config
        hsame h.config
      rw [createClient_of_registered ha (hkind ▸ hfind.trans hfound),
        createClient_of_registered hb hfound, Outcome.map_mapError, Outcome.map_mapError, hcreated]

/-- An attempt to register a type has the same outcome, and the registries differ in passwords at
most afterwards. -/
theorem attempt (h : Alike view a b) {new : Registration Client}
    (hnew : new.create.IgnoresPasswords view) :
    (a.attempt new).1 = (b.attempt new).1 ∧ Alike view (a.attempt new).2 (b.attempt new).2 := by
  by_cases hmem : new.name ∈ a.types
  · rw [attempt_of_mem hmem, attempt_of_mem (h.types_eq ▸ hmem)]
    exact ⟨rfl, h⟩
  · obtain ⟨a', ha, haregs, haconfig⟩ := attempt_of_not_mem hmem
    obtain ⟨b', hb, hbregs, hbconfig⟩ := attempt_of_not_mem (h.types_eq ▸ hmem)
    rw [ha, hb]
    refine ⟨rfl, ⟨by rw [haregs, hbregs, h.registrations], by rw [haconfig, hbconfig, h.config],
      fun r hr => ?_⟩⟩
    rw [haregs, List.mem_append, List.mem_singleton] at hr
    rcases hr with hr | rfl
    · exact h.ignoresPasswords r hr
    · exact hnew

/-- A request is answered alike, and leaves registries that differ in passwords at most. -/
theorem respond (h : Alike view a b) {request : Request Client}
    (hrequest : ∀ new, request = .register new → new.create.IgnoresPasswords view) :
    (a.respond request).1.map view = (b.respond request).1.map view ∧
      Alike view (a.respond request).2 (b.respond request).2 := by
  cases request with
  | register new =>
    obtain ⟨houtcome, halike⟩ := h.attempt (hrequest new rfl)
    exact ⟨congrArg Answer.registered houtcome, halike⟩
  | find name => exact ⟨congrArg (fun o => (Answer.found o).map view) (h.find_eq name), h⟩
  | clientExists name => exact ⟨congrArg Answer.configured (h.clientExists_eq name), h⟩
  | createClient name => exact ⟨congrArg Answer.created (h.createClient_eq name), h⟩
  | types => exact ⟨congrArg Answer.types h.types_eq, h⟩
  | describe => exact ⟨congrArg (fun text => Answer.text (some text)) h.describe_eq, h⟩
  | describeType name =>
    have hfound := h.find?_eq name
    exact ⟨congrArg (fun r => Answer.text (Option.map Registration.describe r)) hfound, h⟩
  | describeConfig =>
    have htext := Config.eq_of_withoutPasswords_eq _ Config.describe_withoutPasswords h.config
    exact ⟨congrArg (fun text => Answer.text (some text)) htext, h⟩
  | describeClient name => exact ⟨congrArg Answer.text (h.describeClient_eq name), h⟩

/-- Requests one after another are answered alike. -/
theorem answers (h : Alike view a b) {requests : List (Request Client)}
    (hrequests : ∀ new, .register new ∈ requests → new.create.IgnoresPasswords view) :
    (a.answers requests).map (Answer.map view) = (b.answers requests).map (Answer.map view) := by
  induction requests generalizing a b with
  | nil => rfl
  | cons request requests ih =>
    obtain ⟨hanswer, halike⟩ := h.respond fun new heq =>
      hrequests new (heq ▸ List.mem_cons_self)
    rw [Registry.answers, Registry.answers, List.map_cons, List.map_cons, hanswer,
      ih halike fun new hmem => hrequests new (List.mem_cons_of_mem request hmem)]

end Alike

/-! ### Secrecy -/

variable {config config' : Config}

theorem alike_empty (hconfig : config.withoutPasswords = config'.withoutPasswords) :
    Alike view (empty config) (empty config') :=
  ⟨rfl, hconfig, fun _ hr => absurd hr List.not_mem_nil⟩

theorem alike_withDefaults {wrap : RemoteClient → Client}
    (hwrap : ∀ a b : RemoteClient, a.withoutPassword = b.withoutPassword →
      view (wrap a) = view (wrap b))
    (hconfig : config.withoutPasswords = config'.withoutPasswords) (build : Rpc.HttpBuilder) :
    Alike view (withDefaults wrap config build) (withDefaults wrap config' build) := by
  refine ⟨rfl, hconfig, fun r hr => ?_⟩
  rw [List.mem_singleton.1 hr]
  dsimp only
  exact Creator.map_ignoresPasswords hwrap build

/-- **Passwords are not told.**  Configurations that differ in passwords at most are accepted alike
and have the same diagnostic texts.  Registries of them, whether they begin empty or with the
built-in type, answer any requests alike: the same outcomes, errors and diagnostic texts, and
clients that look the same to `view`.  For the built-in type, the clients may be looked at in all
but their passwords; the creators that are registered must not tell passwords themselves. -/
theorem answers_without_passwords (view : Client → Shown) (wrap : RemoteClient → Client)
    (hwrap : ∀ a b : RemoteClient, a.withoutPassword = b.withoutPassword →
      view (wrap a) = view (wrap b))
    (build : Rpc.HttpBuilder) (config config' : Config)
    (hconfig : config.withoutPasswords = config'.withoutPasswords)
    (requests : List (Request Client))
    (hrequests : ∀ new, .register new ∈ requests → new.create.IgnoresPasswords view) :
    config.validate = config'.validate ∧ config.describe = config'.describe ∧
    config.clients.map ClientConfig.describe = config'.clients.map ClientConfig.describe ∧
    ((empty config).answers requests).map (Answer.map view) =
      ((empty config').answers requests).map (Answer.map view) ∧
    ((withDefaults wrap config build).answers requests).map (Answer.map view) =
      ((withDefaults wrap config' build).answers requests).map (Answer.map view) := by
  refine ⟨?_, ?_, ?_, ?_, ?_⟩
  · exact Config.eq_of_withoutPasswords_eq _ Config.validate_withoutPasswords hconfig
  · exact Config.eq_of_withoutPasswords_eq _ Config.describe_withoutPasswords hconfig
  · exact Config.eq_of_withoutPasswords_eq (fun config => config.clients.map ClientConfig.describe)
      Config.map_describe_withoutPasswords hconfig
  · exact (alike_empty hconfig).answers hrequests
  · exact (alike_withDefaults hwrap hconfig build).answers hrequests

/-- A configuration of a client with the given password and of one with an unknown type. -/
def boxConfig (password : String) : Config where
  requestTimeoutSecs := 10
  clients :=
    [⟨"box", "transmission", "", "admin", password, false, []⟩,
      ⟨"odd", "deluge", "", "", "", true, []⟩]

/-- A creator that refuses every configuration and tells the user name. -/
def refuse : Creator RemoteClient := fun _ config _ =>
  .error (.other ("refused: " ++ config.username))

/-- Registrations, clients and diagnostic texts. -/
def boxRequests : List (Request RemoteClient) :=
  [.createClient "box", .createClient "odd", .register ⟨"deluge", refuse⟩,
    .register ⟨"transmission", refuse⟩, .createClient "odd", .find "fake", .describe,
    .describeClient "box"]

/-- Nothing tells which of two passwords the client has. -/
theorem answers_boxConfig : boxConfig "hunter2" ≠ boxConfig "swordfish" ∧
    (boxConfig "hunter2").validate = (boxConfig "swordfish").validate ∧
    ((withDefaults id (boxConfig "hunter2")).answers boxRequests).map
        (Answer.map RemoteClient.withoutPassword) =
      ((withDefaults id (boxConfig "swordfish")).answers boxRequests).map
        (Answer.map RemoteClient.withoutPassword) := by
  have hdiffer : boxConfig "hunter2" ≠ boxConfig "swordfish" := by
    intro heq
    simp [boxConfig] at heq
  have hrefuse : refuse.IgnoresPasswords RemoteClient.withoutPassword := by
    intro name config config' all all' hconfig hall
    have huser : config.username = config'.username := (ClientConfig.mk.inj hconfig).2.2.2.1
    rw [refuse, refuse, huser]
  have hrequests : ∀ new, .register new ∈ boxRequests →
      new.create.IgnoresPasswords RemoteClient.withoutPassword := by
    intro new hmem
    simp only [boxRequests, List.mem_cons, Request.register.injEq, reduceCtorEq, false_or,
      List.not_mem_nil, or_false] at hmem
    rcases hmem with rfl | rfl <;> exact hrefuse
  obtain ⟨hvalidate, -, -, -, hanswers⟩ := answers_without_passwords RemoteClient.withoutPassword id
    (fun a b h => h) .ready (boxConfig "hunter2") (boxConfig "swordfish") rfl boxRequests hrequests
  exact ⟨hdiffer, hvalidate, hanswers⟩

end Registry

end TorrentRemote
