import TorrentRemote.Proofs.Client.Freshness
import TorrentRemote.Proofs.Client.Sequential
import Mathlib.Data.List.Induction

/-!
# What the cache of a client remembers

A client is used by one request after another, and the daemon may change in between and fail as it
likes.  All that the cache holds then is the last list that was told to a listing, and it is
forgotten by every purge and by every change that got as far as changing torrents.  So whether a
listing calls the daemon, and what it returns, follows from the requests before it and the answers
they got.

## Main definitions

* `Daemon.Exchange`, `Daemon.Server.recorded` : a daemon that keeps a record of its calls and
  answers.
* `Client.Report` : a request with its result and the calls that were made for it.
* `Client.Report.empties`, `Client.Report.listed?` : a request after which no list is remembered,
  and the list that was told to a listing.
* `Client.remembered` : the list that is remembered after some requests.
* `Client.Uses` : the requests of a client that is used by one request after another.

## Main results

* `Client.remembered_eq_some_iff` : the last list that was told, if nothing was forgotten since.
* `Client.mem_invalidate_iff` : which requests empty the cache.
* `Client.listed_as_remembered` : what listings call and return.
-/

namespace TorrentRemote

namespace Daemon

variable {σ : Type}

/-- A call with its answer. -/
abbrev Exchange : Type := (call : Call) × Except ClientError call.Answer

/-- The daemon says that it has added a torrent. -/
def Exchange.isAdded : Exchange → Bool
  | ⟨.addTorrent _, .ok (.added _)⟩ => true
  | _ => false

/-- The daemon tells of a torrent with the hash. -/
def Exchange.finds (hash : String) : Exchange → Bool
  | ⟨.getTorrents _, .ok records⟩ => List.any records fun record => record.hasHash hash
  | _ => false

theorem Exchange.isAdded_eq_false {new : NewTorrent} {answer : Except ClientError AddOutcome}
    (h : ∀ ref, answer ≠ .ok (.added ref)) : Exchange.isAdded ⟨.addTorrent new, answer⟩ = false := by
  rcases answer with error | ⟨ref⟩ | ⟨ref⟩
  · rfl
  · exact absurd rfl (h ref)
  · rfl

theorem Exchange.finds_eq_false {hash : String} {hashes : Option (List String)}
    {answer : Except ClientError (List TorrentRecord)}
    (h : ∀ records, answer = .ok records → ∀ record ∈ records, ¬ record.hasHash hash) :
    Exchange.finds hash ⟨.getTorrents hashes, answer⟩ = false := by
  cases answer with
  | error error => rfl
  | ok records => exact List.any_eq_false.2 (h records rfl)

theorem Exchange.finds_of_find? {hash : String} {hashes : Option (List String)}
    {records : List TorrentRecord} {found : TorrentRecord}
    (h : List.find? (fun record => record.hasHash hash) records = some found) :
    Exchange.finds hash ⟨.getTorrents hashes, .ok records⟩ := by
  have hfound := List.find?_some h
  exact List.any_eq_true.2 ⟨found, List.mem_of_find?_eq_some h, hfound⟩

/-- The list of all torrents that the daemon tells. -/
def Exchange.listed? : Exchange → Option (List TorrentRecord)
  | ⟨.getTorrents none, .ok records⟩ => some records
  | _ => none

/-- A daemon that keeps a record of its calls and answers. -/
def Server.recorded (server : Server σ) : Server (σ × List Exchange) := fun call s =>
  (((server call).run s.1).1, ((server call).run s.1).2,
    s.2 ++ [⟨call, ((server call).run s.1).1⟩])

end Daemon

namespace Client

open Interaction Daemon

variable {σ α : Type} {client : Client} {server : Server σ} {reports : List Report}
  {cache cache' : Cache} {d d' : σ}

/-! ### What is remembered -/

/-- A request with its result and the calls that were made for it. -/
structure Report where
  request : Request
  result : request.Result
  calls : List Exchange

/-- Whether no list is remembered after a request: a purge, an addition of a torrent that the daemon
has added, a modification of a torrent that was found, and a deletion of at least one torrent. -/
def Report.empties (report : Report) : Bool :=
  match report.request with
  | .purge => true
  | .add .. => report.calls.any Exchange.isAdded
  | .modify hash .. => report.calls.any (Exchange.finds hash)
  | .delete hashes _ => !hashes.isEmpty
  | _ => false

/-- The list that was told to a listing. -/
def Report.listed? (report : Report) : Option (List TorrentRecord) :=
  match report.request with
  | .torrents .. => report.calls.findSome? Exchange.listed?
  | _ => none

/-- What is remembered after one more request. -/
def remember (known : Option (List TorrentRecord)) (report : Report) :
    Option (List TorrentRecord) :=
  if report.empties then none else report.listed?.or known

/-- What is remembered after some requests. -/
def remembered (reports : List Report) : Option (List TorrentRecord) := reports.foldl remember none

theorem remembered_append_singleton (reports : List Report) (report : Report) :
    remembered (reports ++ [report]) = remember (remembered reports) report :=
  List.foldl_append

/-- A report is the last one, or it is one of those before. -/
theorem split_append_singleton {last report : Report} {before after : List Report}
    (h : reports ++ [last] = before ++ report :: after) :
    (before = reports ∧ report = last ∧ after = []) ∨
      ∃ init, after = init ++ [last] ∧ reports = before ++ report :: init := by
  obtain rfl | ⟨init, later, rfl⟩ := List.eq_nil_or_concat' after
  · obtain ⟨rfl, heq⟩ := List.append_inj' h rfl
    exact .inl ⟨rfl, (List.singleton_inj.1 heq).symm, rfl⟩
  · rw [← List.cons_append, ← List.append_assoc] at h
    obtain ⟨hreports, heq⟩ := List.append_inj' h rfl
    exact .inr ⟨init, by rw [List.singleton_inj.1 heq], hreports⟩

/-- What is remembered is the last list that was told, if nothing was forgotten since. -/
theorem remembered_eq_some_iff {records : List TorrentRecord} :
    remembered reports = some records ↔ ∃ before report after, reports = before ++ report :: after ∧
      report.listed? = some records ∧ report.empties = false ∧
      ∀ later ∈ after, later.listed? = none ∧ later.empties = false := by
  induction reports using List.reverseRecOn with
  | nil => simp [remembered]
  | append_singleton reports last ih =>
    rw [remembered_append_singleton, remember]
    constructor
    · intro h
      obtain ⟨hkept, h⟩ : last.empties = false ∧
          last.listed?.or (remembered reports) = some records := by
        cases hlast : last.empties with
        | true => rw [hlast] at h; cases h
        | false => rw [hlast] at h; exact ⟨rfl, h⟩
      cases hlisted : last.listed? with
      | some told =>
        rw [hlisted, Option.some_or] at h
        exact ⟨reports, last, [], rfl, hlisted.trans h, hkept, by simp⟩
      | none =>
        rw [hlisted, Option.none_or] at h
        obtain ⟨before, report, after, rfl, htold, hreport, hafter⟩ := ih.1 h
        refine ⟨before, report, after ++ [last], by simp, htold, hreport, fun later hlater => ?_⟩
        rcases List.mem_append.1 hlater with hlater | hlater
        · exact hafter later hlater
        · rw [List.mem_singleton.1 hlater]
          exact ⟨hlisted, hkept⟩
    · rintro ⟨before, report, after, heq, htold, hreport, hafter⟩
      rcases split_append_singleton heq with ⟨rfl, rfl, rfl⟩ | ⟨init, rfl, hreports⟩
      · rw [hreport, htold]
        rfl
      · obtain ⟨hlisted, hkept⟩ := hafter last (by simp)
        rw [hkept, hlisted]
        exact ih.2 ⟨before, report, init, hreports, htold, hreport,
          fun later hlater => hafter later (List.mem_append_left _ hlater)⟩

/-! ### What requests do to the cache -/

/-- The call of a step with its answer. -/
def exchange? : (step : Step) × step.Result → Option Exchange
  | ⟨.call call, answer⟩ => some ⟨call, answer⟩
  | _ => none

/-- What keeps no list leaves the list in the cache, unless it empties the cache. -/
theorem exists_leads_of_ends {action : Action α} (hkeeps : action.Asks Step.KeepsNothing)
    {value : α} {log log' : List Exchange}
    (hends : Ends server.recorded action (cache, d, log) value (cache', d', log')) :
    ∃ h, Leads action h (.done value) ∧ log' = log ++ h.filterMap exchange? ∧
      (⟨.invalidate, ()⟩ ∈ h → cache'.torrents = none) ∧
      (⟨.invalidate, ()⟩ ∉ h → cache'.torrents = cache.torrents) := by
  induction action generalizing cache d log with
  | done v =>
    obtain ⟨rfl, heq⟩ := ends_done_iff.1 hends
    cases heq
    exact ⟨[], .refl _, (List.append_nil _).symm, nofun, fun _ => rfl⟩
  | ask step next ih =>
    -- A step that does not empty the cache leaves it to the rest.
    have hstep : ∀ {result : step.Result} {d₁ : σ} {log₁ : List Exchange},
        step ≠ .invalidate → log₁ = log ++ [⟨step, result⟩].filterMap exchange? →
        Ends server.recorded (next result) (cache, d₁, log₁) value (cache', d', log') →
        ∃ h, Leads (.ask step next) h (.done value) ∧ log' = log ++ h.filterMap exchange? ∧
          (⟨.invalidate, ()⟩ ∈ h → cache'.torrents = none) ∧
          (⟨.invalidate, ()⟩ ∉ h → cache'.torrents = cache.torrents) := by
      intro result d₁ log₁ hne hlog hrest
      obtain ⟨h, hleads, rfl, hempties, hkept⟩ := ih result (hkeeps.2 result) hrest
      have hmem : (⟨.invalidate, ()⟩ : (step : Step) × step.Result) ∈ ⟨step, result⟩ :: h ↔
          ⟨.invalidate, ()⟩ ∈ h := by
        rw [List.mem_cons]
        exact or_iff_right fun heq => hne (congrArg Sigma.fst heq).symm
      refine ⟨⟨step, result⟩ :: h, .ask hleads, ?_, ?_, ?_⟩
      · rw [hlog, List.append_assoc, ← List.filterMap_append]
        rfl
      · rwa [hmem]
      · rwa [hmem]
    cases step with
    | store => exact hkeeps.1.elim
    | invalidate =>
      obtain ⟨h, hleads, hlog, hempties, hkept⟩ :=
        ih () (hkeeps.2 ()) (ends_invalidate_iff.1 hends)
      refine ⟨⟨.invalidate, ()⟩ :: h, .ask hleads, hlog, fun _ => ?_, fun hnot => ?_⟩
      · by_cases hmem : ⟨.invalidate, ()⟩ ∈ h
        · exact hempties hmem
        · exact hkept hmem
      · exact absurd List.mem_cons_self hnot
    | call call => exact hstep nofun rfl (ends_call_iff.1 hends)
    | readCache => exact hstep nofun (List.append_nil _).symm (ends_readCache_iff.1 hends)
    | readGeneration => exact hstep nofun (List.append_nil _).symm (ends_readGeneration_iff.1 hends)
    | lock => exact hstep nofun (List.append_nil _).symm (ends_lock_iff.1 hends)
    | unlock => exact hstep nofun (List.append_nil _).symm (ends_unlock_iff.1 hends)

/-- The requests that empty the cache are those after which no list is remembered. -/
theorem mem_invalidate_iff {request : Request}
    (hnot : ∀ state category, request ≠ .torrents state category) {result : request.Result}
    {h : History} (hleads : Leads (request.action client) h (.done result)) :
    ⟨.invalidate, ()⟩ ∈ h ↔ Report.empties ⟨request, result, h.filterMap exchange?⟩ := by
  have hcall : ∀ call : Call, call.isReading → Step.call call ≠ .invalidate := fun _ _ => nofun
  -- Requests that never ask for an empty cache do not get it.
  have hnever : (request.action client).Asks (· ≠ .invalidate) →
      ⟨.invalidate, ()⟩ ∉ h := fun hasks hmem => hasks.of_mem hleads _ hmem rfl
  cases request with
  | torrents state category => exact absurd rfl (hnot state category)
  | add content option sideData =>
    rcases leads_addTorrent hleads with ⟨answer, hadded, -, rfl⟩ | ⟨ref, h', -, rfl⟩
    · simp [Report.empties, exchange?, Exchange.isAdded_eq_false hadded]
    · simp [Report.empties, exchange?, Exchange.isAdded]
  | modify hash option sideData =>
    rcases leads_modifyTorrent hleads with
      ⟨answer, hmissing, -, rfl⟩ | ⟨records, current, h', hfind, -, rfl⟩
    · simp [Report.empties, exchange?, Exchange.finds_eq_false hmissing]
    · simp [Report.empties, exchange?, Exchange.finds_of_find? hfind]
  | delete hashes deleteFiles =>
    obtain ⟨failures, h', hremove, -, rfl⟩ := leads_deleteTorrents hleads
    cases hashes with
    | nil =>
      obtain ⟨rfl, -⟩ := leads_done_iff.1 hremove
      simp [Report.empties]
    | cons hash hashes => simp [Report.empties]
  | purge =>
    obtain ⟨⟨⟩, h', rfl, -⟩ := leads_ask_done_iff.1 hleads
    simp [Report.empties]
  | rootPathExists folder =>
    simpa [Report.empties] using hnever (rootPathExists_asks hcall folder)
  | status => simpa [Report.empties] using hnever (status_asks hcall client)
  | getSetting name => simpa [Report.empties] using hnever (getSetting_asks hcall name)
  | setSetting name value =>
    have hasks : (setSetting name value).run.Asks (· ≠ .invalidate) := by
      obtain ⟨error, hdone⟩ | ⟨change, heq⟩ := setSetting_cases name value
      · rw [hdone]
        trivial
      · rw [heq]
        exact asks_exclusively nofun (asks_perform nofun) nofun
    simpa [Report.empties] using hnever hasks

/-- What is not a listing leaves in the cache what is remembered after it. -/
theorem torrents_eq_of_not_listing {request : Request}
    (hnot : ∀ state category, request ≠ .torrents state category) {result : request.Result}
    {calls : List Exchange} (hends : Ends server.recorded (request.action client) (cache, d, [])
      result (cache', d', calls)) :
    cache'.torrents = if Report.empties ⟨request, result, calls⟩ then none else cache.torrents := by
  obtain ⟨h, hleads, rfl, hempties, hkept⟩ :=
    exists_leads_of_ends (Request.action_keepsNothing hnot) hends
  rw [List.nil_append]
  have hiff := mem_invalidate_iff hnot hleads
  by_cases hmem : ⟨.invalidate, ()⟩ ∈ h
  · rw [if_pos (hiff.1 hmem), hempties hmem]
  · rw [if_neg fun h => hmem (hiff.2 h), hkept hmem]

/-! ### What listings do -/

/-- The torrents of a list in a state and of a category, if these are given. -/
def wanted (state : Option TorrentState) (category : Option String)
    (records : List TorrentRecord) : List Torrent :=
  (records.map TorrentRecord.toTorrent).filter fun torrent =>
    (state = none ∨ state = some torrent.state) ∧
      (category = none ∨ category = some torrent.category)

theorem filter_matchesFilter (state : Option TorrentState) (category : Option String)
    (records : List TorrentRecord) :
    (records.map TorrentRecord.toTorrent).filter (fun torrent =>
      torrent.matchesFilter state category) = wanted state category records := by
  refine List.filter_congr fun torrent _ => Bool.eq_iff_iff.2 ?_
  cases state <;> cases category <;> simp [Torrent.matchesFilter]

/-- A listing returns the list in the cache, or calls the daemon once. -/
theorem ends_torrents_recorded {state : Option TorrentState} {category : Option String}
    {result : Except ClientError (List Torrent)} {calls : List Exchange}
    (hends : Ends server.recorded (torrents state category).run (cache, d, []) result
      (cache', d', calls)) :
    (∃ all, cache.torrents = some all ∧ calls = [] ∧ cache' = cache ∧
      result = .ok (all.filter fun torrent => torrent.matchesFilter state category)) ∨
    (cache.torrents = none ∧ ∃ answer : Except ClientError (List TorrentRecord),
      calls = [⟨.getTorrents none, answer⟩] ∧
      cache'.torrents = answer.toOption.map (List.map TorrentRecord.toTorrent) ∧
      result = answer.map fun records => (records.map TorrentRecord.toTorrent).filter
        fun torrent => torrent.matchesFilter state category) := by
  rw [torrents, Client.run_bind, ends_bind_iff] at hends
  obtain ⟨outcome, s₁, hall, hfilter⟩ := hends
  rw [run_allTorrents, ends_readCache_iff] at hall
  cases hcached : cache.torrents with
  | some all =>
    rw [hcached] at hall
    obtain ⟨rfl, rfl⟩ := ends_done_iff.1 hall
    obtain ⟨rfl, heq⟩ := ends_pure_iff.1 hfilter
    cases heq
    exact .inl ⟨all, rfl, rfl, rfl, rfl⟩
  | none =>
    rw [hcached, ends_readGeneration_iff, ends_call_iff] at hall
    obtain ⟨answer, d₁, hanswer⟩ : ∃ (answer : Except ClientError (List TorrentRecord)) (d₁ : σ),
        (server.recorded (.getTorrents none)).run (d, []) =
          (answer, d₁, [⟨.getTorrents none, answer⟩]) := ⟨_, _, rfl⟩
    rw [hanswer] at hall
    cases answer with
    | error error =>
      obtain ⟨rfl, rfl⟩ := ends_done_iff.1 hall
      obtain ⟨rfl, heq⟩ := ends_done_iff.1 hfilter
      cases heq
      exact .inr ⟨rfl, .error error, rfl, hcached, rfl⟩
    | ok records =>
      rw [ends_store_iff, ends_done_iff] at hall
      obtain ⟨rfl, rfl⟩ := hall
      obtain ⟨rfl, heq⟩ := ends_pure_iff.1 hfilter
      -- Nothing has emptied the cache since the generation was read.
      rw [Cache.store, if_pos rfl] at heq
      cases heq
      exact .inr ⟨rfl, .ok records, rfl, rfl, rfl⟩

/-! ### Use -/

/-- A client is used by one request after another, from its beginning.  In between the daemon may
become any other. -/
inductive Uses (client : Client) (server : Server σ) : List Report → Cache → σ → Prop
  | new (d : σ) : Uses client server [] {} d
  | elsewhere {reports : List Report} {cache : Cache} {d : σ}
      (h : Uses client server reports cache d) (d' : σ) : Uses client server reports cache d'
  | request {reports : List Report} {cache cache' : Cache} {d d' : σ} {request : Request}
      {result : request.Result} {calls : List Exchange} (h : Uses client server reports cache d)
      (hends : Ends server.recorded (request.action client) (cache, d, []) result
        (cache', d', calls)) :
      Uses client server (reports ++ [⟨request, result, calls⟩]) cache' d'

/-- What a listing does that comes after some requests. -/
def ListsRemembered (before : List Report) (state : Option TorrentState) (category : Option String)
    (result : Except ClientError (List Torrent)) (calls : List Exchange) : Prop :=
  match remembered before with
  | some records => calls = [] ∧ result = .ok (wanted state category records)
  | none => ∃ answer : Except ClientError (List TorrentRecord),
      calls = [⟨.getTorrents none, answer⟩] ∧ result = answer.map (wanted state category)

/-- One more request leaves in the cache what is remembered after it, and a listing does what it
does with what was remembered before it. -/
theorem step_remembered {request : Request} {result : request.Result} {calls : List Exchange}
    (hcache : cache.torrents = (remembered reports).map (List.map TorrentRecord.toTorrent))
    (hends : Ends server.recorded (request.action client) (cache, d, []) result
      (cache', d', calls)) :
    cache'.torrents = (remembered (reports ++ [⟨request, result, calls⟩])).map
      (List.map TorrentRecord.toTorrent) := by
  rw [remembered_append_singleton, remember]
  by_cases hlisting : ∃ state category, request = .torrents state category
  · obtain ⟨state, category, rfl⟩ := hlisting
    rcases ends_torrents_recorded hends with
      ⟨all, hcached, rfl, rfl, -⟩ | ⟨hcached, answer, rfl, hafter, -⟩
    · exact hcache
    · rw [hafter]
      rw [hcached] at hcache
      cases answer with
      | ok records => rfl
      | error error => exact hcache
  · have hnot : ∀ state category, request ≠ .torrents state category :=
      fun state category heq => hlisting ⟨state, category, heq⟩
    have hlisted : Report.listed? ⟨request, result, calls⟩ = none := by
      cases request with
      | torrents state category => exact absurd rfl (hnot state category)
      | _ => rfl
    rw [torrents_eq_of_not_listing hnot hends, hlisted, Option.none_or, hcache]
    split <;> rfl

theorem listsRemembered_of_ends {state : Option TorrentState} {category : Option String}
    {result : Except ClientError (List Torrent)} {calls : List Exchange}
    (hcache : cache.torrents = (remembered reports).map (List.map TorrentRecord.toTorrent))
    (hends : Ends server.recorded (torrents state category).run (cache, d, []) result
      (cache', d', calls)) : ListsRemembered reports state category result calls := by
  unfold ListsRemembered
  rcases ends_torrents_recorded hends with
    ⟨all, hcached, rfl, -, rfl⟩ | ⟨hcached, answer, rfl, -, rfl⟩
  · rw [hcached] at hcache
    cases hknown : remembered reports with
    | none =>
      rw [hknown] at hcache
      cases hcache
    | some records =>
      rw [hknown] at hcache
      cases hcache
      exact ⟨rfl, by rw [filter_matchesFilter]⟩
  · rw [hcached] at hcache
    cases hknown : remembered reports with
    | none =>
      refine ⟨answer, rfl, ?_⟩
      simp only [filter_matchesFilter]
    | some records =>
      rw [hknown] at hcache
      cases hcache

/-- **What listings call and return.**  A client is used by any requests one after another, with any
changes of the daemon in between and any failures.  A listing calls the daemon once if no list is
remembered, and it returns what the daemon tells, or its error.  Otherwise it makes no call and
returns the list that is remembered.  In both cases the torrents are those in the wanted state and
of the wanted category, in the order of the list.  The cache always holds what is remembered: the
last list that was told to a listing, if since then there was no purge, no addition of a torrent
that the daemon has added, no modification of a torrent that was found, and no deletion of at least
one torrent. -/
theorem listed_as_remembered (client : Client) (server : Server σ) (reports : List Report)
    (cache : Cache) (d : σ) (h : Uses client server reports cache d) :
    cache.torrents = (remembered reports).map (List.map TorrentRecord.toTorrent) ∧
    (∀ records, remembered reports = some records ↔ ∃ before report after,
      reports = before ++ report :: after ∧ report.listed? = some records ∧
        report.empties = false ∧ ∀ later ∈ after, later.listed? = none ∧ later.empties = false) ∧
    ∀ (before after : List Report) (state : Option TorrentState) (category : Option String)
      (result : Except ClientError (List Torrent)) (calls : List Exchange),
      reports = before ++ ⟨.torrents state category, result, calls⟩ :: after →
        ListsRemembered before state category result calls := by
  obtain ⟨hcache, hlists⟩ : cache.torrents =
      (remembered reports).map (List.map TorrentRecord.toTorrent) ∧
      ∀ before after state category result calls,
        reports = before ++ ⟨.torrents state category, result, calls⟩ :: after →
          ListsRemembered before state category result calls := by
    induction h with
    | new => exact ⟨rfl, fun before after _ _ _ _ heq => by simp at heq⟩
    | elsewhere _ _ ih => exact ih
    | request h hends ih =>
      refine ⟨step_remembered ih.1 hends, fun before after state category result calls heq => ?_⟩
      rcases split_append_singleton heq with ⟨rfl, hlast, -⟩ | ⟨init, -, hreports⟩
      · cases hlast
        exact listsRemembered_of_ends ih.1 hends
      · exact ih.2 before init state category result calls hreports
  exact ⟨hcache, fun _ => remembered_eq_some_iff, hlists⟩

/-! ### A list that is forgotten -/

/-- Two listings, the second of those that are seeding, a deletion of a torrent that is not there,
and a third listing. -/
def deletionReports : List Report :=
  [⟨.torrents none none, .ok [onlyRecord.toTorrent], [⟨.getTorrents none, .ok [onlyRecord]⟩]⟩,
    ⟨.torrents (some .seeding) none, .ok [], []⟩,
    ⟨.delete ["cd"] false, .ok (), [⟨.removeTorrents ["cd"] false, .ok ()⟩]⟩,
    ⟨.torrents none none, .ok [], [⟨.getTorrents none, .ok []⟩]⟩]

theorem uses_deletionReports : ∃ cache,
    Uses homeClient (exactServer fun _ => ⟨"", ""⟩) deletionReports cache [] := by
  have h₀ : Uses homeClient (exactServer fun _ => ⟨"", ""⟩) [] {} [onlyRecord] := .new _
  have h₁ := h₀.request (show Ends _ (Request.action homeClient (.torrents none none)) _
    (.ok [onlyRecord.toTorrent]) (⟨some [onlyRecord.toTorrent], 0⟩, [onlyRecord],
      [⟨.getTorrents none, .ok [onlyRecord]⟩]) from rfl)
  -- The torrent is gone, but the list is still remembered.
  have h₂ := (h₁.elsewhere []).request
    (show Ends _ (Request.action homeClient (.torrents (some .seeding) none)) _ (.ok [])
      (⟨some [onlyRecord.toTorrent], 0⟩, [], []) from rfl)
  have h₃ := h₂.request (show Ends _ (Request.action homeClient (.delete ["cd"] false)) _ (.ok ())
    (⟨none, 1⟩, [], [⟨.removeTorrents ["cd"] false, .ok ()⟩]) from rfl)
  have h₄ := h₃.request (show Ends _ (Request.action homeClient (.torrents none none)) _ (.ok [])
    (⟨some [], 1⟩, [], [⟨.getTorrents none, .ok []⟩]) from rfl)
  exact ⟨_, h₄⟩

/-- The second listing returns what is remembered, and the third calls the daemon. -/
theorem listed_as_remembered_deletionReports :
    ∃ cache, Uses homeClient (exactServer fun _ => ⟨"", ""⟩) deletionReports cache [] ∧
      cache.torrents = some [] ∧
      ListsRemembered (deletionReports.take 1) (some .seeding) none (.ok []) [] ∧
      remembered (deletionReports.take 1) = some [onlyRecord] ∧
      ListsRemembered (deletionReports.take 3) none none (.ok []) [⟨.getTorrents none, .ok []⟩] ∧
      remembered (deletionReports.take 3) = none := by
  obtain ⟨cache, huses⟩ := uses_deletionReports
  obtain ⟨hcache, -, hlists⟩ := listed_as_remembered _ _ _ _ _ huses
  exact ⟨cache, huses, hcache, hlists _ _ _ _ _ _ rfl, rfl, hlists _ _ _ _ _ _ rfl, rfl⟩

end Client

end TorrentRemote
