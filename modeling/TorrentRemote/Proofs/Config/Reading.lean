import TorrentRemote.Config.Reader
import TorrentRemote.Proofs.Config.Validation
import Mathlib.Data.List.Forall2

/-!
# Reading configurations

A configuration is read from every table of the right shape, and from no other.  Each of the six
known keys of a client table gives one field, with a value that stands for the key if it is missing.
All other keys are kept with their values, whatever these are, and none of the known keys is kept
among them.  So the fields and the other keys say together what the table said, up to known keys
with the value that they have anyway.  Keys have no meaning beyond that: date-times are values of
their own, and no key marks them.

## Main definitions

* `ClientConfig.HasShape`, `Config.HasShape` : the tables that can be read.
* `ClientConfig.known?`, `ClientConfig.default?` : the value of a known key in a client, and if it
  is missing.
* `ClientConfig.IsReadFrom`, `Config.IsReadFrom` : what is read from a table.

## Main results

* `ClientConfig.ofTable?_eq_some_iff` : which client is read from a table.
* `ClientConfig.IsReadFrom.known?_or_get?_extra` : nothing in a client table is lost.
* `Config.reads_every_key` : what is read from the table of a text.
-/

namespace TorrentRemote

open Toml (Table Value)

/-! ### Values under keys -/

section

variable {α : Type} {value? : Option Value}

/-- A value that may be missing has a form if it has this form when it is there, as long as what
stands for it has the form too. -/
theorem exists_or_eq_some_and_iff (make : α → Value) (start : α) {p : α → Prop} (hstart : p start) :
    (∃ a, value?.or (some (make start)) = some (make a) ∧ p a) ↔
      ∀ value, value? = some value → ∃ a, value = make a ∧ p a := by
  cases value? with
  | none => exact iff_of_true ⟨start, rfl, hstart⟩ nofun
  | some value => simp

theorem exists_or_eq_some_iff (make : α → Value) (start : α) :
    (∃ a, value?.or (some (make start)) = some (make a)) ↔
      ∀ value, value? = some value → ∃ a, value = make a := by
  simpa using exists_or_eq_some_and_iff make start (p := fun _ => True) trivial

end

namespace ClientConfig

variable {table : Table} {client : ClientConfig} {key text : String}

/-! ### Known keys -/

/-- The known keys of texts that may be missing. -/
def textKeys : List String := ["type", "url", "username", "password"]

/-- The shape of a client table.  Other keys may be there with any values. -/
structure HasShape (table : Table) : Prop where
  name : ∃ text, table.get? "name" = some (.string text)
  texts : ∀ key ∈ textKeys, ∀ value, table.get? key = some value → ∃ text, value = .string text
  noAdd : ∀ value, table.get? "no_add" = some value → ∃ truth, value = .boolean truth

/-- The value that stands for a known key that is missing.  The name cannot be missing. -/
def default? (key : String) : Option Value :=
  if key ∈ textKeys then some (.string "")
  else if key = "no_add" then some (.boolean false)
  else none

/-- The value that a client has under a known key. -/
def known? (client : ClientConfig) (key : String) : Option Value :=
  match key with
  | "name" => some (.string client.name)
  | "type" => some (.string client.kind)
  | "url" => some (.string client.url)
  | "username" => some (.string client.username)
  | "password" => some (.string client.password)
  | "no_add" => some (.boolean client.noAdd)
  | _ => none

theorem textKeys_subset_knownKeys : textKeys ⊆ knownKeys := by
  decide

theorem string?_eq_some_iff :
    table.string? key = some text ↔ table.get? key = some (.string text) := by
  unfold Table.string?
  split <;> simp_all

theorem textOrEmpty?_eq_some_iff : textOrEmpty? table key = some text ↔
    (table.get? key).or (some (.string "")) = some (.string text) := by
  unfold textOrEmpty?
  split <;> simp_all

theorem exists_textOrEmpty?_iff : (∃ text, textOrEmpty? table key = some text) ↔
    ∀ value, table.get? key = some value → ∃ text, value = .string text := by
  simp only [textOrEmpty?_eq_some_iff, exists_or_eq_some_iff]

theorem boolOrFalse?_eq_some_iff {truth : Bool} : boolOrFalse? table key = some truth ↔
    (table.get? key).or (some (.boolean false)) = some (.boolean truth) := by
  unfold boolOrFalse?
  split
  · next hnone => simp [hnone]
  · next value hvalue => simp [hvalue]
  · next value hother hvalue =>
    rw [hvalue, Option.some_or, Option.some.injEq]
    exact iff_of_false nofun (hother truth)

theorem exists_boolOrFalse?_iff : (∃ truth, boolOrFalse? table key = some truth) ↔
    ∀ value, table.get? key = some value → ∃ truth, value = .boolean truth := by
  simp only [boolOrFalse?_eq_some_iff, exists_or_eq_some_iff]

/-! ### Client tables -/

/-- A client is read from a table if each of its fields is. -/
theorem ofTable?_eq_some_iff_fields : ofTable? table = some client ↔
    table.string? "name" = some client.name ∧ textOrEmpty? table "type" = some client.kind ∧
    textOrEmpty? table "url" = some client.url ∧
    textOrEmpty? table "username" = some client.username ∧
    textOrEmpty? table "password" = some client.password ∧
    boolOrFalse? table "no_add" = some client.noAdd ∧ client.extra = extraOf table := by
  obtain ⟨name, kind, url, username, password, noAdd, extra⟩ := client
  simp only [ofTable?, Option.bind_eq_bind, Option.bind_eq_some_iff, Option.some.injEq, mk.injEq]
  constructor
  · rintro ⟨_, hname, _, hkind, _, hurl, _, husername, _, hpassword, _, hnoAdd, rfl, rfl, rfl, rfl,
      rfl, rfl, rfl⟩
    exact ⟨hname, hkind, hurl, husername, hpassword, hnoAdd, rfl⟩
  · rintro ⟨hname, hkind, hurl, husername, hpassword, hnoAdd, rfl⟩
    exact ⟨_, hname, _, hkind, _, hurl, _, husername, _, hpassword, _, hnoAdd, rfl, rfl, rfl, rfl,
      rfl, rfl, rfl⟩

/-- A client is read from a table if what the table says under the known keys are the fields of the
client, and the other entries are kept. -/
theorem ofTable?_eq_some_iff : ofTable? table = some client ↔
    (∀ key ∈ knownKeys, (table.get? key).or (default? key) = client.known? key) ∧
      client.extra = extraOf table := by
  rw [ofTable?_eq_some_iff_fields]
  simp only [string?_eq_some_iff, textOrEmpty?_eq_some_iff, boolOrFalse?_eq_some_iff]
  simp [knownKeys, known?, default?, textKeys, and_assoc]

/-- A table can be read exactly if it has the shape of a client table. -/
theorem exists_ofTable?_iff : (∃ client, ofTable? table = some client) ↔ HasShape table := by
  constructor
  · rintro ⟨client, hclient⟩
    obtain ⟨hname, hkind, hurl, husername, hpassword, hnoAdd, -⟩ :=
      ofTable?_eq_some_iff_fields.1 hclient
    refine ⟨⟨_, string?_eq_some_iff.1 hname⟩, ?_, exists_boolOrFalse?_iff.1 ⟨_, hnoAdd⟩⟩
    simp only [← exists_textOrEmpty?_iff, textKeys, List.forall_mem_cons, List.not_mem_nil,
      false_imp_iff, implies_true, and_true]
    exact ⟨⟨_, hkind⟩, ⟨_, hurl⟩, ⟨_, husername⟩, ⟨_, hpassword⟩⟩
  · rintro ⟨⟨name, hname⟩, htexts, hnoAdd⟩
    simp only [← exists_textOrEmpty?_iff, textKeys, List.forall_mem_cons, List.not_mem_nil,
      false_imp_iff, implies_true, and_true] at htexts
    obtain ⟨⟨kind, hkind⟩, ⟨url, hurl⟩, ⟨username, husername⟩, ⟨password, hpassword⟩⟩ := htexts
    obtain ⟨noAdd, hnoAdd⟩ := exists_boolOrFalse?_iff.2 hnoAdd
    exact ⟨⟨name, kind, url, username, password, noAdd, extraOf table⟩,
      ofTable?_eq_some_iff_fields.2 ⟨string?_eq_some_iff.2 hname, hkind, hurl, husername, hpassword,
        hnoAdd, rfl⟩⟩

/-! ### Other keys -/

/-- Under a known key nothing is kept, and under any other key what the table says. -/
theorem get?_extraOf (table : Table) (key : String) :
    Table.get? (extraOf table) key = if key ∈ knownKeys then none else table.get? key := by
  rw [Table.get?, extraOf, List.find?_filter, Table.get?]
  split
  · next hkey =>
    rw [Option.map_eq_none_iff, List.find?_eq_none]
    rintro entry - hentry
    obtain ⟨hother, hname⟩ : entry.1 ∉ knownKeys ∧ entry.1 = key := by simpa using hentry
    exact hother (hname ▸ hkey)
  · next hkey =>
    congr 2
    funext entry
    by_cases hname : entry.1 = key
    · simp [hname, hkey]
    · simp [hname]

theorem mem_extraOf {entry : String × Value} :
    entry ∈ extraOf table ↔ entry ∈ table ∧ entry.1 ∉ knownKeys := by
  rw [extraOf, List.mem_filter, decide_eq_true_eq]

/-- What is read from a client table: what it says under the known keys are the fields of the
client, and all entries under other keys are kept. -/
structure IsReadFrom (table : Table) (client : ClientConfig) : Prop where
  known : ∀ key ∈ knownKeys, (table.get? key).or (default? key) = client.known? key
  entries : ∀ entry, entry ∈ client.extra ↔ entry ∈ table ∧ entry.1 ∉ knownKeys
  extra : ∀ key, Table.get? client.extra key = if key ∈ knownKeys then none else table.get? key

theorem isReadFrom_of_ofTable? (h : ofTable? table = some client) : client.IsReadFrom table := by
  obtain ⟨hknown, hextra⟩ := ofTable?_eq_some_iff.1 h
  exact ⟨hknown, fun entry => hextra ▸ mem_extraOf, hextra ▸ get?_extraOf table⟩

theorem known?_eq_none (hkey : key ∉ knownKeys) : client.known? key = none := by
  simp only [knownKeys, List.mem_cons, List.not_mem_nil, or_false, not_or] at hkey
  unfold known?
  split <;> simp_all

theorem default?_eq_none (hkey : key ∉ knownKeys) : default? key = none := by
  rw [default?, if_neg fun htext => hkey (textKeys_subset_knownKeys htext), if_neg]
  rintro rfl
  exact hkey (by decide)

namespace IsReadFrom

/-- The fields of a client and the other keys say together what its table says. -/
theorem known?_or_get?_extra (h : client.IsReadFrom table) (key : String) :
    (client.known? key).or (Table.get? client.extra key) = (table.get? key).or (default? key) := by
  rw [h.extra]
  split
  · next hkey => rw [Option.or_none, h.known key hkey]
  · next hkey => rw [known?_eq_none hkey, default?_eq_none hkey, Option.none_or, Option.or_none]

/-- A text among the other settings is one in the table, under a key that is not known. -/
theorem extraString?_eq_some_iff (h : client.IsReadFrom table) :
    client.extraString? key = some text ↔
      key ∉ knownKeys ∧ table.get? key = some (.string text) := by
  rw [extraString?, string?_eq_some_iff, h.extra]
  split
  · next hkey => simp [hkey]
  · next hkey => simp [hkey]

end IsReadFrom

/-! ### Items of an array -/

/-- A value that is a client table. -/
def IsClientTable (value : Value) : Prop := ∃ entries, value = .table entries ∧ HasShape entries

theorem ofValue?_eq_some_iff {value : Value} : ofValue? value = some client ↔
    ∃ entries, value = .table entries ∧ ofTable? entries = some client := by
  cases value with
  | table entries => simp [ofValue?]
  | _ => simp [ofValue?]

theorem exists_ofValue?_iff {value : Value} :
    (∃ client, ofValue? value = some client) ↔ IsClientTable value := by
  simp only [ofValue?_eq_some_iff, IsClientTable, ← exists_ofTable?_iff, ← exists_and_left]
  exact exists_comm

/-- Clients can be read exactly if every item is a client table. -/
theorem exists_mapM_ofValue?_iff {items : List Value} :
    (∃ clients, items.mapM ofValue? = some clients) ↔ ∀ item ∈ items, IsClientTable item := by
  simp only [Lookup.mapM_eq_some_iff_forall₂, ← exists_ofValue?_iff]
  induction items with
  | nil => simp
  | cons item items ih =>
    simp only [List.forall₂_cons_left_iff, List.forall_mem_cons, ← ih]
    constructor
    · rintro ⟨_, client, clients, hclient, hclients, -⟩
      exact ⟨⟨client, hclient⟩, clients, hclients⟩
    · rintro ⟨⟨client, hclient⟩, clients, hclients⟩
      exact ⟨_, client, clients, hclient, hclients, rfl⟩

end ClientConfig

namespace Config

variable {table : Table} {config : Config}

/-! ### Configurations -/

/-- The shape of a table of a configuration.  Other keys may be there with any values. -/
structure HasShape (table : Table) : Prop where
  timeout : ∀ value, table.get? "request_timeout_secs" = some value →
    ∃ seconds : Int64, value = .integer seconds ∧ 0 ≤ seconds.toInt
  clients : ∀ value, table.get? "clients" = some value →
    ∃ items, value = .array items ∧ ∀ item ∈ items, ClientConfig.IsClientTable item

/-- What is read from the table of a configuration: its time limit, or 30 seconds, and one client
for each client table, in order. -/
structure IsReadFrom (table : Table) (config : Config) : Prop where
  timeout : ∃ seconds : Int64,
    (table.get? "request_timeout_secs").or (some (.integer 30)) = some (.integer seconds) ∧
      (config.requestTimeoutSecs.toNat : Int) = seconds.toInt
  clients : ∃ items, (table.get? "clients").or (some (.array [])) = some (.array items) ∧
    List.Forall₂ (fun item client => ∃ entries, item = .table entries ∧
      ClientConfig.IsReadFrom entries client) items config.clients

theorem ofNat_toNat_eq_iff {seconds : Int64} {timeout : UInt64} (h : 0 ≤ seconds.toInt) :
    UInt64.ofNat seconds.toInt.toNat = timeout ↔ (timeout.toNat : Int) = seconds.toInt := by
  have hlt : seconds.toInt < 2 ^ 63 := seconds.toInt_lt
  rw [← UInt64.toNat_inj, UInt64.toNat_ofNat_of_lt' (by change _ < 2 ^ 64; omega)]
  omega

/-- A time limit is read from a number of seconds that is not negative. -/
theorem timeoutOf?_eq_some_iff {timeout : UInt64} : timeoutOf? table = some timeout ↔
    ∃ seconds : Int64,
      (table.get? "request_timeout_secs").or (some (.integer 30)) = some (.integer seconds) ∧
        (timeout.toNat : Int) = seconds.toInt := by
  unfold timeoutOf?
  split
  · next hnone =>
    simp only [hnone, Option.none_or, Option.some.injEq, Value.integer.injEq, exists_eq_left']
    have hdefault : 0 ≤ (30 : Int64).toInt := by decide
    exact ofNat_toNat_eq_iff hdefault
  · next seconds hseconds =>
    simp only [hseconds, Option.some_or, Option.some.injEq, Value.integer.injEq, exists_eq_left']
    split
    · next hnonneg => rw [Option.some.injEq, ofNat_toNat_eq_iff hnonneg]
    · next hneg => exact iff_of_false nofun (by omega)
  · next value hother hvalue =>
    rw [hvalue]
    refine iff_of_false nofun ?_
    rintro ⟨seconds, hseconds, -⟩
    exact hother seconds (Option.some.inj hseconds)

theorem clientsOf?_eq_some_iff {clients : List ClientConfig} : clientsOf? table = some clients ↔
    ∃ items, (table.get? "clients").or (some (.array [])) = some (.array items) ∧
      items.mapM ClientConfig.ofValue? = some clients := by
  unfold clientsOf?
  split
  · next hnone => simp [hnone, eq_comm]
  · next items hitems => simp [hitems]
  · next value hother hvalue =>
    rw [hvalue]
    refine iff_of_false nofun ?_
    rintro ⟨items, hitems, -⟩
    exact hother items (Option.some.inj hitems)

theorem ofTable?_eq_some_iff : ofTable? table = some config ↔
    timeoutOf? table = some config.requestTimeoutSecs ∧ clientsOf? table = some config.clients := by
  obtain ⟨requestTimeoutSecs, clients⟩ := config
  simp only [ofTable?, Option.bind_eq_bind, Option.bind_eq_some_iff, Option.some.injEq, mk.injEq]
  constructor
  · rintro ⟨_, htimeout, _, hclients, rfl, rfl⟩
    exact ⟨htimeout, hclients⟩
  · rintro ⟨htimeout, hclients⟩
    exact ⟨_, htimeout, _, hclients, rfl, rfl⟩

theorem isReadFrom_of_ofTable? (h : ofTable? table = some config) : config.IsReadFrom table := by
  obtain ⟨htimeout, hclients⟩ := ofTable?_eq_some_iff.1 h
  obtain ⟨items, hitems, hread⟩ := clientsOf?_eq_some_iff.1 hclients
  refine ⟨timeoutOf?_eq_some_iff.1 htimeout, items, hitems, ?_⟩
  refine (Lookup.mapM_eq_some_iff_forall₂.1 hread).imp fun item client hclient => ?_
  obtain ⟨entries, hitem, hentries⟩ := ClientConfig.ofValue?_eq_some_iff.1 hclient
  exact ⟨entries, hitem, ClientConfig.isReadFrom_of_ofTable? hentries⟩

theorem exists_toNat_eq_iff {seconds : Int64} :
    (∃ timeout : UInt64, (timeout.toNat : Int) = seconds.toInt) ↔ 0 ≤ seconds.toInt :=
  ⟨fun ⟨_, h⟩ => h ▸ Int.natCast_nonneg _, fun h => ⟨_, (ofNat_toNat_eq_iff h).1 rfl⟩⟩

/-- A table can be read exactly if it has the shape of a configuration. -/
theorem exists_ofTable?_iff : (∃ config, ofTable? table = some config) ↔ HasShape table := by
  have htimeout : (∃ timeout, timeoutOf? table = some timeout) ↔
      ∀ value, table.get? "request_timeout_secs" = some value →
        ∃ seconds : Int64, value = .integer seconds ∧ 0 ≤ seconds.toInt := by
    rw [← exists_or_eq_some_and_iff Value.integer 30 (by decide)]
    simp only [timeoutOf?_eq_some_iff, ← exists_toNat_eq_iff, ← exists_and_left]
    exact exists_comm
  have hclients : (∃ clients, clientsOf? table = some clients) ↔
      ∀ value, table.get? "clients" = some value →
        ∃ items, value = .array items ∧ ∀ item ∈ items, ClientConfig.IsClientTable item := by
    rw [← exists_or_eq_some_and_iff Value.array [] (by simp)]
    simp only [clientsOf?_eq_some_iff, ← ClientConfig.exists_mapM_ofValue?_iff, ← exists_and_left]
    exact exists_comm
  simp only [ofTable?_eq_some_iff]
  constructor
  · rintro ⟨config, hread⟩
    exact ⟨htimeout.1 ⟨_, hread.1⟩, hclients.1 ⟨_, hread.2⟩⟩
  · rintro ⟨hshape, hshape'⟩
    obtain ⟨requestTimeoutSecs, h⟩ := htimeout.2 hshape
    obtain ⟨clients, h'⟩ := hclients.2 hshape'
    exact ⟨⟨requestTimeoutSecs, clients⟩, h, h'⟩

theorem ofTable_of_ofTable? (h : ofTable? table = some config) :
    ofTable table = config.validate.map fun _ => config := by
  rw [ofTable, h]

/-- A configuration is not refused for its shape once it was read. -/
theorem validate_ne_error_parse (config : Config) (detail : String) :
    config.validate ≠ .error (.parse detail) := by
  intro h
  obtain ⟨i, hi, -, hrefusal⟩ := validateFrom_eq_error_iff.1 h
  unfold refusalOf at hrefusal
  split at hrefusal <;> cases hrefusal

/-- A table is refused for its shape exactly if it does not have the shape of a configuration. -/
theorem ofTable_ne_error_parse_iff :
    (∀ detail, ofTable table ≠ .error (.parse detail)) ↔ HasShape table := by
  rw [← exists_ofTable?_iff, ← Option.isSome_iff_exists, ← Option.ne_none_iff_isSome]
  constructor
  · intro h hnone
    exact h _ (by rw [ofTable, hnone])
  · -- What is refused after it was read is refused by the validation, and never for its shape.
    intro h detail hrefused
    obtain ⟨config, hread⟩ := Option.ne_none_iff_exists'.1 h
    rw [ofTable_of_ofTable? hread] at hrefused
    cases hvalid : config.validate with
    | ok _ =>
      rw [hvalid] at hrefused
      cases hrefused
    | error e =>
      rw [hvalid] at hrefused
      cases hrefused
      exact validate_ne_error_parse config detail hvalid

theorem ofTable_congr {other : Table}
    (htimeout : other.get? "request_timeout_secs" = table.get? "request_timeout_secs")
    (hclients : other.get? "clients" = table.get? "clients") : ofTable other = ofTable table := by
  have hsame : ofTable? other = ofTable? table := by
    rw [ofTable?, timeoutOf?, htimeout, clientsOf?, hclients]
    rfl
  rw [ofTable, hsame, ofTable]

/-- **No key is lost or taken twice.**  A text is refused for the shape of its table exactly if the
table does not have the shape of a configuration.  Otherwise a configuration is read from it, with
one client for each client table, in order, and all that is left is to validate it.  Keys at the top
that are not known make no difference.  The fields of a client and its other keys say together what
its table said, with the values that stand for missing keys.  A text among the other keys is found
under its key, and a known key is never among them. -/
theorem reads_every_key (table : Table) :
    (∀ text, Toml.parse? text = some table → parse text = ofTable table) ∧
    ((∀ detail, ofTable table ≠ .error (.parse detail)) ↔ HasShape table) ∧
    (HasShape table → ∃ config : Config, config.IsReadFrom table ∧
      ofTable table = config.validate.map fun _ => config) ∧
    (∀ other : Table, other.get? "request_timeout_secs" = table.get? "request_timeout_secs" →
      other.get? "clients" = table.get? "clients" → ofTable other = ofTable table) ∧
    ∀ (entries : Table) (client : ClientConfig), client.IsReadFrom entries →
      (∀ key, (client.known? key).or (Table.get? client.extra key) =
        (entries.get? key).or (ClientConfig.default? key)) ∧
      ∀ key text, client.extraString? key = some text ↔
        key ∉ ClientConfig.knownKeys ∧ entries.get? key = some (.string text) := by
  refine ⟨fun text htext => ?_, ofTable_ne_error_parse_iff, fun hshape => ?_,
    fun other => ofTable_congr, fun entries client hread =>
      ⟨hread.known?_or_get?_extra, fun key text => hread.extraString?_eq_some_iff⟩⟩
  · rw [parse, htext]
  · obtain ⟨config, hread⟩ := exists_ofTable?_iff.2 hshape
    exact ⟨config, isReadFrom_of_ofTable? hread, ofTable_of_ofTable? hread⟩

/-- A client table with a key that is not known, beside its name and its type. -/
def libraryEntries : Table :=
  [("kind", .string "books"), ("name", .string "library"), ("type", .string "transmission")]

/-- The table of a configuration with this client, and with a key at the top that is not known. -/
def libraryTable : Table := [("clients", .array [.table libraryEntries]), ("log", .integer 1)]

/-- The client of this configuration. -/
def libraryClient : ClientConfig :=
  ⟨"library", "transmission", "", "", "", false, [("kind", .string "books")]⟩

/-- What is not known at the top is ignored, but a key of the client is kept, although a field has
its name.  An empty text is a configuration without clients. -/
theorem reads_every_key_library :
    HasShape libraryTable ∧
    ofTable [("clients", .array [.table libraryEntries])] = .ok ⟨30, [libraryClient]⟩ ∧
    libraryClient.extraString? "kind" = some "books" ∧
    (∀ text, libraryClient.extraString? "type" ≠ some text) ∧ parse "" = .ok ⟨30, []⟩ := by
  obtain ⟨-, hshape, -, htop, hclient⟩ := reads_every_key libraryTable
  have hok : ofTable libraryTable = .ok ⟨30, [libraryClient]⟩ := rfl
  have hread : libraryClient.IsReadFrom libraryEntries := ClientConfig.isReadFrom_of_ofTable? rfl
  obtain ⟨-, hextra⟩ := hclient libraryEntries libraryClient hread
  have hempty : Toml.parse? "" = some [] := rfl
  refine ⟨hshape.1 (by rw [hok]; nofun), (htop _ rfl rfl).trans hok,
    (hextra "kind" "books").2 ⟨by decide, rfl⟩, fun text htype => ?_,
    (reads_every_key []).1 "" hempty⟩
  exact ((hextra "type" text).1 htype).1 (by decide)

end Config

end TorrentRemote
