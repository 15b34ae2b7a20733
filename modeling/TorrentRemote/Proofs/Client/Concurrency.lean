import TorrentRemote.Client.Run
import TorrentRemote.Proofs.Client.Operation
import Mathlib.Logic.Function.Basic

/-!
# Operations that overlap

Any number of operations of one client run at the same time.  Each takes its steps in its own
order, and between two steps of one operation any others may run.  A step is one event: a call of
the daemon takes effect and is answered, or something is done to the cache or to the lock.  The
daemon is any relation between its states, the calls and the answers, so a call may fail with or
without effect, and the daemon may change on its own.

A run is the list of its events.  The time of an event is its index.

## Main definitions

* `Client.Request` : what can be asked of a client.
* `Client.System` : a client with its cache, its lock, its daemon and the operations on the way.
* `Client.Reaches` : the runs of a client and the states they lead to.
* `Client.history` : the part of a run that belongs to one operation.

## Main results

* `Client.takes_of_run` : the steps of the system are those that run alone.
* `Client.Reaches.follows` : each task takes its own steps in its own order.
* `Client.Reaches.le_of_started`, `Client.Reaches.lt_of_returned` : a task takes its steps between
  its start and its return.
-/

namespace TorrentRemote.Client

open Interaction

/-! ### Requests -/

/-- What can be asked of a client. -/
inductive Request where
  | torrents (state : Option TorrentState) (category : Option String)
  | add (content : List UInt8) (option : TorrentOption) (sideData : SideData)
  | modify (hash : String) (option : TorrentOption) (sideData : Option SideData)
  | delete (hashes : List String) (deleteFiles : Bool)
  | purge
  | rootPathExists (folder : String)
  | status
  | setSetting (name value : String)
  | getSetting (name : String)

/-- What a request results in. -/
@[reducible] def Request.Result : Request → Type
  | torrents .. => Except ClientError (List Torrent)
  | add .. | modify .. | delete .. | setSetting .. => Except ClientError Unit
  | purge => Unit
  | rootPathExists _ => Bool
  | status => Except ClientError Status
  | getSetting _ => Except ClientError String

/-- How a client carries out a request. -/
def Request.action (client : Client) : (request : Request) → Action request.Result
  | torrents state category => (Client.torrents state category).run
  | add content option sideData => (client.addTorrent content option sideData).run
  | modify hash option sideData => (modifyTorrent hash option sideData).run
  | delete hashes deleteFiles => (deleteTorrents hashes deleteFiles).run
  | purge => purgeCache
  | rootPathExists folder => Client.rootPathExists folder
  | status => client.status.run
  | setSetting name value => (Client.setSetting name value).run
  | getSetting name => (Client.getSetting name).run

/-! ### States and events -/

/-- How far a task has come: not begun, on the way with what remains to be done, or finished. -/
inductive Task where
  | idle
  | running (request : Request) (rest : Action request.Result)
  | finished

/-- A client with its cache, the task that holds its lock, its daemon, and its tasks by number. -/
structure System (σ : Type) where
  daemon : σ
  cache : Cache
  holder : Option Nat
  tasks : Nat → Task

variable {σ : Type}

/-- A new client, with nothing in its cache. -/
def System.initial (daemon : σ) : System σ := ⟨daemon, {}, none, fun _ => .idle⟩

/-- The system with another state of one task. -/
def System.setTask (s : System σ) (i : Nat) (task : Task) : System σ :=
  { s with tasks := Function.update s.tasks i task }

@[simp] theorem System.setTask_cache (s : System σ) (i : Nat) (task : Task) :
    (s.setTask i task).cache = s.cache := rfl

@[simp] theorem System.setTask_tasks_self (s : System σ) (i : Nat) (task : Task) :
    (s.setTask i task).tasks i = task :=
  Function.update_self ..

theorem System.setTask_tasks_of_ne {s : System σ} {i j : Nat} {task : Task} (hne : i ≠ j) :
    (s.setTask i task).tasks j = s.tasks j :=
  Function.update_of_ne (Ne.symm hne) ..

/-- What happens to a task. -/
inductive Event where
  | started (task : Nat) (request : Request)
  | stepped (task : Nat) (step : Step) (result : step.Result)
  | returned (task : Nat) (request : Request) (result : request.Result)

/-- The task to which something happens. -/
def Event.task : Event → Nat
  | started i _ | stepped i .. | returned i .. => i

/-- How a daemon may answer a call in a state, and the state it is in afterwards. -/
abbrev Serves (σ : Type) : Type :=
  σ → (call : Daemon.Call) → Except ClientError call.Answer → σ → Prop

/-- What a step of the task `i` may result in, and what it does. -/
inductive Takes (serves : Serves σ) (i : Nat) (s : System σ) :
    (step : Step) → step.Result → System σ → Prop
  | call {call : Daemon.Call} {answer : Except ClientError call.Answer} {d : σ}
      (h : serves s.daemon call answer d) :
      Takes serves i s (.call call) answer { s with daemon := d }
  | readCache : Takes serves i s .readCache s.cache.torrents s
  | readGeneration : Takes serves i s .readGeneration s.cache.generation s
  | store (generation : UInt64) (torrents : List Torrent) :
      Takes serves i s (.store generation torrents) ()
        { s with cache := s.cache.store generation torrents }
  | invalidate : Takes serves i s .invalidate () { s with cache := s.cache.invalidate }
  | lock (h : s.holder = none) : Takes serves i s .lock () { s with holder := some i }
  | unlock : Takes serves i s .unlock () { s with holder := none }

/-- What a step results in alone, with the lock free, is what it may result in as a step of the
system. -/
theorem takes_of_run {answer : (call : Daemon.Call) → StateM σ (Except ClientError call.Answer)}
    {s : System σ} {step : Step} {result : step.Result} {cache : Cache} {d : σ}
    (hfree : s.holder = none)
    (hrun : ((Step.run answer step).run s.cache).run s.daemon = ((result, cache), d)) (i : Nat) :
    ∃ holder, Takes (fun d call reply d' => (answer call).run d = (reply, d')) i s step result
      { s with daemon := d, cache, holder } := by
  cases step with
  | call c =>
    cases hrun
    exact ⟨s.holder, .call rfl⟩
  | readCache =>
    cases hrun
    exact ⟨s.holder, .readCache⟩
  | readGeneration =>
    cases hrun
    exact ⟨s.holder, .readGeneration⟩
  | store generation torrents =>
    cases hrun
    exact ⟨s.holder, .store generation torrents⟩
  | invalidate =>
    cases hrun
    exact ⟨s.holder, .invalidate⟩
  | lock =>
    cases hrun
    exact ⟨some i, .lock hfree⟩
  | unlock =>
    cases hrun
    exact ⟨none, .unlock⟩

/-- An event in one state and the state it leads to. -/
inductive Next (client : Client) (serves : Serves σ) (s : System σ) : Event → System σ → Prop
  | start {i : Nat} {request : Request} (h : s.tasks i = .idle) :
      Next client serves s (.started i request)
        (s.setTask i (.running request (request.action client)))
  | step {i : Nat} {request : Request} {step : Step}
      {next : step.Result → Action request.Result} {result : step.Result} {s' : System σ}
      (h : s.tasks i = .running request (.ask step next))
      (htakes : Takes serves i s step result s') :
      Next client serves s (.stepped i step result)
        (s'.setTask i (.running request (next result)))
  | finish {i : Nat} {request : Request} {result : request.Result}
      (h : s.tasks i = .running request (.done result)) :
      Next client serves s (.returned i request result) (s.setTask i .finished)

/-- A run of a client from its beginning, and the state it leads to. -/
inductive Reaches (client : Client) (serves : Serves σ) (daemon : σ) :
    List Event → System σ → Prop
  | initial : Reaches client serves daemon [] (.initial daemon)
  | next {events : List Event} {event : Event} {s s' : System σ}
      (hreach : Reaches client serves daemon events s) (hnext : Next client serves s event s') :
      Reaches client serves daemon (events ++ [event]) s'

/-! ### The part of one task -/

/-- The step of an event and its result, if it belongs to the task `i`. -/
def Event.stepOf? (i : Nat) : Event → Option ((step : Step) × step.Result)
  | stepped j step result => if j = i then some ⟨step, result⟩ else none
  | started .. | returned .. => none

/-- The steps of the task `i` in a run, with their results. -/
def history (events : List Event) (i : Nat) : History := events.filterMap (Event.stepOf? i)

theorem history_append (events more : List Event) (i : Nat) :
    history (events ++ more) i = history events i ++ history more i :=
  List.filterMap_append

theorem Event.stepOf?_eq_some_iff {i : Nat} {event : Event} {step : Step} {result : step.Result} :
    event.stepOf? i = some ⟨step, result⟩ ↔ event = .stepped i step result := by
  cases event with
  | started => simp [stepOf?]
  | returned => simp [stepOf?]
  | stepped j step' result' =>
    simp only [stepOf?, Option.ite_none_right_eq_some, Option.some.injEq, Sigma.mk.injEq,
      stepped.injEq]

theorem Event.stepOf?_eq_none {i : Nat} {event : Event} (h : event.task ≠ i) :
    event.stepOf? i = none := by
  cases event with
  | started => rfl
  | returned => rfl
  | stepped j step result => exact if_neg h

/-- A step in the history of a task is an event of the run. -/
theorem exists_of_history_eq {events : List Event} {i : Nat} (h₁ : History) {h₂ : History}
    {step : Step} {result : step.Result} (h : history events i = h₁ ++ ⟨step, result⟩ :: h₂) :
    ∃ t, events[t]? = some (.stepped i step result) ∧ history (events.take t) i = h₁ ∧
      history (events.drop (t + 1)) i = h₂ := by
  obtain ⟨before, after, rfl, hbefore, hafter⟩ := List.filterMap_eq_append_iff.1 h
  obtain ⟨skipped, event, later, rfl, hskipped, hevent, hlater⟩ :=
    List.filterMap_eq_cons_iff.1 hafter
  have hnone : history skipped i = [] := List.filterMap_eq_nil_iff.2 hskipped
  have hsplit : before ++ (skipped ++ event :: later) = (before ++ skipped) ++ event :: later :=
    (List.append_assoc ..).symm
  have hdrop : before ++ (skipped ++ event :: later) = (before ++ skipped ++ [event]) ++ later := by
    simp
  refine ⟨(before ++ skipped).length, ?_, ?_, ?_⟩
  · rw [hsplit, List.getElem?_append_right (Nat.le_refl _), Nat.sub_self, List.getElem?_cons_zero,
      Event.stepOf?_eq_some_iff.1 hevent]
  · rw [hsplit, List.take_left, history_append, hnone, List.append_nil]
    exact hbefore
  · rw [hdrop, List.drop_left' (by rw [List.length_append]; rfl)]
    exact hlater

/-! ### Runs -/

variable {client : Client} {serves : Serves σ} {daemon : σ} {events : List Event} {s : System σ}

/-- Every event of a run happens in a state that the events before it lead to. -/
theorem Reaches.exists_next (hreach : Reaches client serves daemon events s) {t : Nat}
    {event : Event} (h : events[t]? = some event) :
    ∃ s₀ s₁, Reaches client serves daemon (events.take t) s₀ ∧ Next client serves s₀ event s₁ := by
  induction hreach with
  | initial => simp at h
  | @next events last s s' hbefore hnext ih =>
    rcases Nat.lt_trichotomy t events.length with hlt | rfl | hgt
    · rw [List.getElem?_append_left hlt] at h
      rw [List.take_append_of_le_length (Nat.le_of_lt hlt)]
      exact ih h
    · rw [List.getElem?_append_right (Nat.le_refl _), Nat.sub_self, List.getElem?_cons_zero] at h
      cases h
      rw [List.take_left]
      exact ⟨s, s', hbefore, hnext⟩
    · rw [List.getElem?_eq_none (by simp; omega)] at h
      cases h

/-- What a run has to do with a task that has come so far. -/
def Task.Follows (client : Client) (events : List Event) (i : Nat) : Task → Prop
  | idle => ∀ event ∈ events, event.task ≠ i
  | running request rest =>
    Leads (request.action client) (history events i) rest ∧
      ∀ request' result, .returned i request' result ∉ events
  | finished => True

theorem history_eq_nil {i : Nat} (h : ∀ event ∈ events, event.task ≠ i) :
    history events i = [] :=
  List.filterMap_eq_nil_iff.2 fun event he => Event.stepOf?_eq_none (h event he)

/-- An event of another task is nothing to a task. -/
theorem Task.Follows.append {i : Nat} {task : Task} (h : task.Follows client events i)
    {event : Event} (hne : event.task ≠ i) : task.Follows client (events ++ [event]) i := by
  have hnil : history [event] i = [] := history_eq_nil (by simpa using hne)
  have hhistory : history (events ++ [event]) i = history events i := by
    rw [history_append, hnil, List.append_nil]
  cases task with
  | idle => simpa [Follows, or_imp, forall_and, hne] using h
  | running request rest =>
    refine ⟨hhistory ▸ h.1, fun request' result hmem => ?_⟩
    rcases List.mem_append.1 hmem with hmem | hmem
    · exact h.2 request' result hmem
    · exact hne (List.mem_singleton.1 hmem ▸ rfl)
  | finished => trivial

theorem Takes.eq_of_readCache {i : Nat} {cached : Option (List Torrent)} {s' : System σ}
    (h : Takes serves i s .readCache cached s') : cached = s.cache.torrents := by
  cases h
  rfl

theorem Takes.tasks_eq {i : Nat} {step : Step} {result : step.Result} {s' : System σ}
    (h : Takes serves i s step result s') : s'.tasks = s.tasks := by
  cases h <;> rfl

theorem Next.tasks_eq_of_ne {event : Event} {s' : System σ} (h : Next client serves s event s')
    {i : Nat} (hne : event.task ≠ i) : s'.tasks i = s.tasks i := by
  cases h with
  | start => exact System.setTask_tasks_of_ne hne
  | step _ htakes => exact (System.setTask_tasks_of_ne hne).trans (congrFun htakes.tasks_eq i)
  | finish => exact System.setTask_tasks_of_ne hne

/-- An event takes its own task one step further. -/
theorem Next.follows {event : Event} {s' : System σ} (h : Next client serves s event s')
    (hfollows : (s.tasks event.task).Follows client events event.task) :
    (s'.tasks event.task).Follows client (events ++ [event]) event.task := by
  cases h with
  | @start i request hidle =>
    simp only [Event.task] at hfollows ⊢
    rw [hidle] at hfollows
    rw [System.setTask_tasks_self]
    refine ⟨?_, fun request' result hmem => ?_⟩
    · rw [history_append, history_eq_nil hfollows]
      exact .refl _
    · rcases List.mem_append.1 hmem with hmem | hmem
      · exact hfollows _ hmem rfl
      · cases List.mem_singleton.1 hmem
  | @step i request step next result s' hrunning htakes =>
    simp only [Event.task] at hfollows ⊢
    rw [hrunning] at hfollows
    rw [System.setTask_tasks_self]
    refine ⟨?_, fun request' result' hmem => ?_⟩
    · rw [history_append]
      have hlast : history [.stepped i step result] i = [⟨step, result⟩] := by
        simp [history, Event.stepOf?]
      rw [hlast]
      exact hfollows.1.snoc result
    · rcases List.mem_append.1 hmem with hmem | hmem
      · exact hfollows.2 _ _ hmem
      · cases List.mem_singleton.1 hmem
  | finish =>
    simp only [Event.task, System.setTask_tasks_self]
    trivial

/-- In every run, each task has taken the first of its own steps in its own order. -/
theorem Reaches.follows (hreach : Reaches client serves daemon events s) (i : Nat) :
    (s.tasks i).Follows client events i := by
  induction hreach with
  | initial =>
    intro event hmem
    cases hmem
  | @next events event s s' _ hnext ih =>
    by_cases hi : event.task = i
    · subst hi
      exact hnext.follows ih
    · rw [hnext.tasks_eq_of_ne hi]
      exact ih.append hi

/-- What a task has done before it returns. -/
theorem Reaches.leads_of_returned (hreach : Reaches client serves daemon events s) {t i : Nat}
    {request : Request} {result : request.Result}
    (h : events[t]? = some (.returned i request result)) :
    Leads (request.action client) (history (events.take t) i) (.done result) := by
  obtain ⟨s₀, s₁, hbefore, hnext⟩ := hreach.exists_next h
  cases hnext with
  | finish hdone =>
    have hfollows := hbefore.follows i
    rw [hdone] at hfollows
    exact hfollows.1

/-- Nothing happens to a task before it starts. -/
theorem Reaches.le_of_started (hreach : Reaches client serves daemon events s) {b t i : Nat}
    {request : Request} (hstart : events[b]? = some (.started i request)) {event : Event}
    (h : events[t]? = some event) (htask : event.task = i) : b ≤ t := by
  by_contra hlt
  obtain ⟨s₀, s₁, hbefore, hnext⟩ := hreach.exists_next hstart
  cases hnext with
  | start hidle =>
    have hfollows := hbefore.follows i
    rw [hidle] at hfollows
    have hmem : event ∈ events.take b := List.mem_of_getElem? (i := t) (by
      rw [List.getElem?_take_of_lt (by omega), h])
    exact hfollows event hmem htask

/-- A task takes no step after it has returned. -/
theorem Reaches.lt_of_returned (hreach : Reaches client serves daemon events s) {a t i : Nat}
    {request : Request} {result : request.Result}
    (hreturn : events[a]? = some (.returned i request result)) {step : Step}
    {answer : step.Result} (h : events[t]? = some (.stepped i step answer)) : t < a := by
  by_contra hle
  obtain ⟨s₀, s₁, hbefore, hnext⟩ := hreach.exists_next h
  cases hnext with
  | step hrunning _ =>
    have hfollows := hbefore.follows i
    rw [hrunning] at hfollows
    have hne : a ≠ t := by
      rintro rfl
      cases hreturn.symm.trans h
    have hmem : Event.returned i request result ∈ events.take t :=
      List.mem_of_getElem? (i := a) (by rw [List.getElem?_take_of_lt (by omega), hreturn])
    exact hfollows.2 request result hmem

end TorrentRemote.Client
