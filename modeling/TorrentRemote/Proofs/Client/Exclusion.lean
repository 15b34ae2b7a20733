import TorrentRemote.Proofs.Client.Concurrency
import TorrentRemote.Proofs.Client.Protocol
import TorrentRemote.Proofs.Client.Sequential

/-!
# Changes exclude each other

A change waits for the lock, does everything under the lock, gives the lock back and returns.  Other
operations never touch the lock, and at the daemon they only read.  So what a change does under the
lock is what it would do alone.

## Main definitions

* `Client.Request.IsChange` : a request that may change the daemon.
* `Client.Serves.Obeys` : the daemon answers the calls of changes as a function of its state, and
  all other calls leave it as it is.
* `Client.carryOut`, `Client.EndInTurn` : what changes result in that are carried out one after
  another.
* `Client.lockOrder` : the tasks in the order in which they got the lock.
* `Client.Stage` : how far a task has come, from a change that waits to one that is done.
* `Client.InTurn` : a run whose changes so far have ended as if carried out one after another.

## Main results

* `Client.Request.IsChange.action_cases`, `Client.Request.action_reads` : the shape of changes and of
  other operations.
* `Client.InTurn.next`, `Client.Reaches.exists_inTurn` : one more event keeps a run in turn, so in
  every run changes end as if carried out one after another.
-/

namespace TorrentRemote.Client

open Interaction

variable {σ α : Type}

/-! ### The shape of operations -/

/-- A request that may change the daemon. -/
def Request.IsChange : Request → Prop
  | add .. | modify .. | delete .. | setSetting .. => True
  | _ => False

/-- A step of an operation that changes nothing at the daemon and leaves the lock alone. -/
def Step.Reads : Step → Prop
  | call c => c.isReading
  | lock | unlock => False
  | _ => True

/-- An action that gives back the lock at its end. -/
def releasing (body : Action α) : Action α :=
  body.bind fun result => .ask .unlock fun _ => .done result

/-- An action during which the lock is held. -/
def underLock (body : Action α) : Action α := .ask .lock fun _ => releasing body

theorem Guarded.exists_underLock {operation : Operation α} (h : Guarded operation) :
    ∃ body, operation.run = underLock body ∧ body.Asks Step.IsInside := by
  obtain ⟨body, rfl, hbody⟩ := h
  exact ⟨body.run, run_exclusively body, hbody⟩

/-- A change is refused at once, or it does everything under the lock. -/
theorem Request.IsChange.action_cases {request : Request} (hchange : request.IsChange)
    (client : Client) : (∃ result, request.action client = .done result) ∨
      ∃ body, request.action client = underLock body ∧ body.Asks Step.IsInside := by
  cases request with
  | add content option sideData =>
    exact .inr (addTorrent_guarded client content option sideData).exists_underLock
  | modify hash option sideData =>
    exact .inr (modifyTorrent_guarded hash option sideData).exists_underLock
  | delete hashes deleteFiles =>
    exact .inr (deleteTorrents_guarded hashes deleteFiles).exists_underLock
  | setSetting name value =>
    obtain ⟨error, hdone⟩ | ⟨change, heq⟩ := setSetting_cases name value
    · exact .inl ⟨.error error, hdone⟩
    · exact .inr (Guarded.exists_underLock ⟨_, heq, asks_perform rfl⟩)
  | _ => exact hchange.elim

theorem torrents_reads (state : Option TorrentState) (category : Option String) :
    (torrents state category).run.Asks Step.Reads := by
  refine asks_bind ?_ fun all => trivial
  rw [run_allTorrents]
  refine ⟨trivial, fun cached => ?_⟩
  cases cached with
  | some torrents => trivial
  | none =>
    refine ⟨trivial, fun generation => ⟨rfl, fun answer => ?_⟩⟩
    cases answer with
    | ok records => exact ⟨trivial, fun _ => trivial⟩
    | error error => trivial

/-- What changes nothing only reads. -/
theorem Request.action_reads {request : Request} (h : ¬ request.IsChange) (client : Client) :
    (request.action client).Asks Step.Reads := by
  have hcall : ∀ call : Daemon.Call, call.isReading → (Step.call call).Reads := fun _ h => h
  cases request with
  | torrents state category => exact torrents_reads state category
  | purge => exact ⟨trivial, fun _ => trivial⟩
  | rootPathExists folder => exact rootPathExists_asks hcall folder
  | status => exact status_asks hcall client
  | getSetting name => exact getSetting_asks hcall name
  | _ => exact absurd trivial h

theorem Request.isChange_of_action_eq {client : Client} {request : Request}
    {body : Action request.Result} (h : request.action client = underLock body) :
    request.IsChange := by
  by_contra hreading
  have hreads := request.action_reads hreading client
  rw [h] at hreads
  exact hreads.1

/-! ### Alone at the daemon -/

/-- A daemon that answers the calls of changes as `server` does, and that all other calls leave as
it is, whatever it answers. -/
structure Serves.Obeys (serves : Serves σ) (server : Daemon.Server σ) : Prop where
  changes {d d' : σ} {call : Daemon.Call} {answer : Except ClientError call.Answer} :
    serves d call answer d' → call.isReading = false → (server call).run d = (answer, d')
  reads {d d' : σ} {call : Daemon.Call} {answer : Except ClientError call.Answer} :
    serves d call answer d' → call.isReading → d' = d

/-- Run alone, whatever the cache holds, an action results in `value` and takes the daemon from `d`
to `d'`. -/
def EndsAt (server : Daemon.Server σ) (action : Action α) (d : σ) (value : α) (d' : σ) : Prop :=
  ∀ cache, ∃ cache', Ends server action (cache, d) value (cache', d')

/-- Whatever `rest` results in from `d'`, `body` results in from `d`. -/
def GoesOn (server : Daemon.Server σ) (body : Action α) (d : σ) (rest : Action α) (d' : σ) : Prop :=
  ∀ value d'', EndsAt server rest d' value d'' → EndsAt server body d value d''

section Alone

variable {server : Daemon.Server σ} {d d' : σ} {value : α}

theorem endsAt_done : EndsAt server (.done value) d value d :=
  fun cache => ⟨cache, ends_done_iff.2 ⟨rfl, rfl⟩⟩

theorem EndsAt.underLock {body : Action α} (h : EndsAt server body d value d') :
    EndsAt server (underLock body) d value d' := by
  intro cache
  obtain ⟨cache', hends⟩ := h cache
  exact ⟨cache', ends_lock_iff.2 (ends_bind_iff.2 ⟨value, _, hends, ends_unlock_iff.2
    (ends_done_iff.2 ⟨rfl, rfl⟩)⟩)⟩

theorem GoesOn.refl (body : Action α) (d : σ) : GoesOn server body d body d := fun _ _ h => h

/-- An action goes on after a call. -/
theorem GoesOn.call {body : Action α} {call : Daemon.Call}
    {next : Except ClientError call.Answer → Action α} {answer : Except ClientError call.Answer}
    {d'' : σ} (h : GoesOn server body d (.ask (.call call) next) d')
    (hcall : (server call).run d' = (answer, d'')) : GoesOn server body d (next answer) d'' := by
  intro value e hnext
  refine h value e fun cache => ?_
  obtain ⟨cache', hends⟩ := hnext cache
  refine ⟨cache', ends_call_iff.2 ?_⟩
  rw [hcall]
  exact hends

/-- An action goes on after it has emptied the cache. -/
theorem GoesOn.invalidate {body : Action α} {next : Unit → Action α}
    (h : GoesOn server body d (.ask .invalidate next) d') :
    GoesOn server body d (next ()) d' := by
  intro value e hnext
  refine h value e fun cache => ?_
  obtain ⟨cache', hends⟩ := hnext cache.invalidate
  exact ⟨cache', ends_invalidate_iff.2 hends⟩

end Alone

/-! ### One after another -/

/-- A change that a task has carried out, with its result. -/
structure Completed where
  task : Nat
  request : Request
  result : request.Result

/-- Carries out the requests of tasks one after another. -/
def carryOut (server : Daemon.Server σ) (client : Client) (requests : List (Nat × Request)) :
    StateT Cache (StateM σ) (List Completed) :=
  requests.mapM fun (task, request) => do
    let result ← run server (request.action client)
    pure ⟨task, request, result⟩

/-- Changes that are carried out one after another, whatever the cache holds, have their results and
take the daemon from `d` to `d'`. -/
def EndInTurn (server : Daemon.Server σ) (client : Client) (d : σ) (completed : List Completed)
    (d' : σ) : Prop :=
  ∀ cache, ∃ cache', ((carryOut server client (completed.map fun c => (c.task, c.request))).run
    cache).run d = ((completed, cache'), d')

theorem endInTurn_nil {server : Daemon.Server σ} {client : Client} {d : σ} :
    EndInTurn server client d [] d :=
  fun cache => ⟨cache, rfl⟩

theorem EndInTurn.snoc {server : Daemon.Server σ} {client : Client} {d d₁ d₂ : σ}
    {completed : List Completed} (h : EndInTurn server client d completed d₁) {last : Completed}
    (hlast : EndsAt server (last.request.action client) d₁ last.result d₂) :
    EndInTurn server client d (completed ++ [last]) d₂ := by
  intro cache
  obtain ⟨cache₁, hfirst⟩ := h cache
  obtain ⟨cache₂, hends⟩ := hlast cache₁
  refine ⟨cache₂, ?_⟩
  unfold carryOut at hfirst ⊢
  unfold Ends at hends
  rw [List.map_append, List.mapM_append, StateT.run_bind, StateT.run_bind, hfirst]
  simp only [List.map_cons, List.map_nil, List.mapM_cons, List.mapM_nil, StateT.run_bind,
    StateT.run_pure, pure_bind, bind_assoc]
  change ((completed ++ [⟨last.task, last.request, _⟩], _), _) = _
  rw [hends]

/-- The task that gets the lock by an event. -/
def Event.lockedBy? : Event → Option Nat
  | stepped i .lock _ => some i
  | _ => none

/-- The tasks in the order in which they got the lock. -/
def lockOrder (events : List Event) : List Nat := events.filterMap Event.lockedBy?

/-- How far a task has come that carries out a request. -/
inductive Stage (client : Client) (server : Daemon.Server σ) (events : List Event) (s : System σ)
    (completed : List Completed) (d : σ) (i : Nat) : (request : Request) →
    Action request.Result → Prop
  /-- The request changes nothing. -/
  | reading {request : Request} {rest : Action request.Result} (h : ¬ request.IsChange)
      (hreads : rest.Asks Step.Reads) : Stage client server events s completed d i request rest
  /-- The change has not begun. -/
  | waiting {request : Request} (h : request.IsChange) (hnot : i ∉ lockOrder events) :
      Stage client server events s completed d i request (request.action client)
  /-- The change holds the lock, and it has got the daemon from `d` to where it is. -/
  | inside {request : Request} {body rest : Action request.Result}
      (haction : request.action client = underLock body) (hholds : s.holder = some i)
      (hinside : rest.Asks Step.IsInside) (hgoes : GoesOn server body d rest s.daemon) :
      Stage client server events s completed d i request (releasing rest)
  /-- The change has given back the lock. -/
  | ended {request : Request} {result : request.Result} (h : ⟨i, request, result⟩ ∈ completed) :
      Stage client server events s completed d i request (.done result)

theorem Stage.transfer {client : Client} {server : Daemon.Server σ} {events events' : List Event}
    {s s' : System σ} {completed completed' : List Completed} {d d' : σ} {i : Nat}
    {request : Request} {rest : Action request.Result}
    (h : Stage client server events s completed d i request rest)
    (hlock : i ∉ lockOrder events → i ∉ lockOrder events')
    (hholds : s.holder = some i → s'.holder = some i ∧ s'.daemon = s.daemon ∧ d' = d)
    (hcompleted : completed ⊆ completed') :
    Stage client server events' s' completed' d' i request rest := by
  cases h with
  | reading h hreads => exact .reading h hreads
  | waiting h hnot => exact .waiting h (hlock hnot)
  | inside haction hself hinside hgoes =>
    obtain ⟨hself', hdaemon, rfl⟩ := hholds hself
    exact .inside haction hself' hinside (hdaemon ▸ hgoes)
  | ended h => exact .ended (hcompleted h)

/-- What a run has to do with a task that has come so far. -/
def Task.IsInTurn (client : Client) (server : Daemon.Server σ) (events : List Event) (s : System σ)
    (completed : List Completed) (d : σ) (i : Nat) : Task → Prop
  | idle => i ∉ lockOrder events
  | running request rest =>
    .started i request ∈ events ∧ Stage client server events s completed d i request rest
  | finished => True

/-- A run whose changes have ended as if they had been carried out one after another, in the order
in which they got the lock, and have taken the daemon to `d` at the last time when the lock was
free. -/
structure InTurn (client : Client) (server : Daemon.Server σ) (daemon : σ) (events : List Event)
    (s : System σ) (completed : List Completed) (d : σ) : Prop where
  ends : EndInTurn server client daemon completed d
  order : lockOrder events = completed.map Completed.task ++ s.holder.toList
  nodup : (lockOrder events).Nodup
  free : s.holder = none → s.daemon = d
  tasks (i : Nat) : (s.tasks i).IsInTurn client server events s completed d i
  started : ∀ c ∈ completed, .started c.task c.request ∈ events ∧ c.request.IsChange
  /-- A change that has returned was carried out, or it was refused at once. -/
  returned (i : Nat) (request : Request) (result : request.Result) :
    .returned i request result ∈ events → request.IsChange →
      ⟨i, request, result⟩ ∈ completed ∨ request.action client = .done result

theorem lockOrder_append (events more : List Event) :
    lockOrder (events ++ more) = lockOrder events ++ lockOrder more :=
  List.filterMap_append

section Runs

variable {client : Client} {server : Daemon.Server σ} {serves : Serves σ} {daemon d d' : σ}
  {events : List Event} {s s' : System σ} {completed completed' : List Completed} {event : Event}
  {i : Nat} {request : Request}

theorem not_mem_lockOrder_append (hnot : i ∉ lockOrder events) (hne : event.task ≠ i) :
    i ∉ lockOrder (events ++ [event]) := by
  rw [lockOrder_append, List.mem_append, not_or]
  refine ⟨hnot, fun hmem => ?_⟩
  obtain ⟨_, hevent, hlocked⟩ := List.mem_filterMap.1 hmem
  rw [List.mem_singleton.1 hevent] at hlocked
  cases event with
  | stepped j step result =>
    cases step with
    | lock => exact hne (Option.some.inj hlocked)
    | _ => cases hlocked
  | _ => cases hlocked

theorem inTurn_initial : InTurn client server daemon [] (.initial daemon) [] daemon where
  ends := endInTurn_nil
  order := rfl
  nodup := List.nodup_nil
  free _ := rfl
  tasks _ := List.not_mem_nil
  started _ h := absurd h List.not_mem_nil
  returned _ _ _ h := absurd h List.not_mem_nil

theorem InTurn.stage (h : InTurn client server daemon events s completed d)
    {rest : Action request.Result} (hrunning : s.tasks i = .running request rest) :
    .started i request ∈ events ∧ Stage client server events s completed d i request rest := by
  have htask := h.tasks i
  rwa [hrunning] at htask

/-- What an event has to do so that the run stays in turn: the rest is said of its own task. -/
theorem InTurn.append (h : InTurn client server daemon events s completed d)
    (hother : ∀ j, event.task ≠ j → s'.tasks j = s.tasks j)
    (hends : EndInTurn server client daemon completed' d')
    (horder : lockOrder (events ++ [event]) =
      completed'.map Completed.task ++ s'.holder.toList)
    (hnodup : (lockOrder (events ++ [event])).Nodup)
    (hfree : s'.holder = none → s'.daemon = d')
    (hholds : ∀ j, event.task ≠ j → s.holder = some j →
      s'.holder = some j ∧ s'.daemon = s.daemon ∧ d' = d)
    (hcompleted : completed ⊆ completed')
    (hstarted : ∀ c ∈ completed', .started c.task c.request ∈ events ++ [event] ∧
      c.request.IsChange)
    (htask : (s'.tasks event.task).IsInTurn client server (events ++ [event]) s' completed' d'
      event.task)
    (hreturned : ∀ (i : Nat) (request : Request) (result : request.Result),
      event = .returned i request result → request.IsChange →
        ⟨i, request, result⟩ ∈ completed ∨ request.action client = .done result) :
    InTurn client server daemon (events ++ [event]) s' completed' d' where
  ends := hends
  order := horder
  nodup := hnodup
  free := hfree
  tasks j := by
    by_cases hself : event.task = j
    · exact hself ▸ htask
    · have hbefore := h.tasks j
      rw [hother j hself]
      cases hj : s.tasks j with
      | idle =>
        rw [hj] at hbefore
        exact not_mem_lockOrder_append hbefore hself
      | running request rest =>
        rw [hj] at hbefore
        exact ⟨List.mem_append_left _ hbefore.1, hbefore.2.transfer
          (fun hnot => not_mem_lockOrder_append hnot hself) (hholds j hself) hcompleted⟩
      | finished => trivial
  started := hstarted
  returned i request result hmem hchange := by
    rcases List.mem_append.1 hmem with hmem | hmem
    · exact (h.returned i request result hmem hchange).imp_left fun hin => hcompleted hin
    · exact (hreturned i request result (List.mem_singleton.1 hmem).symm hchange).imp_left
        fun hin => hcompleted hin

/-- An event at which the lock does not change hands leaves the changes that have ended as they are.
Only the task that holds the lock changes the daemon. -/
theorem InTurn.append_of_holder_eq (h : InTurn client server daemon events s completed d)
    (hother : ∀ j, event.task ≠ j → s'.tasks j = s.tasks j) (hlock : event.lockedBy? = none)
    (hholder : s'.holder = s.holder)
    (hdaemon : s'.daemon = s.daemon ∨ s.holder = some event.task)
    (htask : (s'.tasks event.task).IsInTurn client server (events ++ [event]) s' completed d
      event.task)
    (hreturned : ∀ (i : Nat) (request : Request) (result : request.Result),
      event = .returned i request result → request.IsChange →
        ⟨i, request, result⟩ ∈ completed ∨ request.action client = .done result) :
    InTurn client server daemon (events ++ [event]) s' completed d := by
  have horder : lockOrder (events ++ [event]) = lockOrder events := by
    rw [lockOrder_append, lockOrder, lockOrder, List.filterMap_cons_none hlock]
    exact List.append_nil _
  refine h.append hother h.ends ?_ ?_ ?_ ?_ (List.Subset.refl _)
    (fun c hc => (h.started c hc).imp_left (List.mem_append_left _)) htask hreturned
  · rw [horder, hholder, h.order]
  · rw [horder]
    exact h.nodup
  · intro hfree
    rw [hholder] at hfree
    rcases hdaemon with hsame | hself
    · rw [hsame, h.free hfree]
    · cases hfree.symm.trans hself
  · intro j hj hholds
    rcases hdaemon with hsame | hself
    · exact ⟨hholder.trans hholds, hsame, rfl⟩
    · exact absurd (Option.some.inj (hself.symm.trans hholds)) hj

/-- The lock is taken.  Until then the daemon was as the last change had left it. -/
theorem InTurn.append_lock (h : InTurn client server daemon events s completed d)
    {body : Action request.Result} (hrunning : s.tasks i = .running request (underLock body))
    (haction : request.action client = underLock body) (hinside : body.Asks Step.IsInside)
    (hfree : s.holder = none) (hnot : i ∉ lockOrder events) :
    InTurn client server daemon (events ++ [.stepped i .lock ()])
      ({ s with holder := some i }.setTask i (.running request (releasing body))) completed d := by
  have horder : lockOrder (events ++ [.stepped i .lock ()]) = lockOrder events ++ [i] :=
    lockOrder_append ..
  refine h.append (fun j => System.setTask_tasks_of_ne) h.ends ?_ ?_ ?_ ?_ (List.Subset.refl _)
    (fun c hc => (h.started c hc).imp_left (List.mem_append_left _)) ?_ ?_
  · rw [horder, h.order, hfree, Option.toList_none, List.append_nil]
    rfl
  · rw [horder]
    exact List.concat_eq_append ▸ h.nodup.concat hnot
  · rintro ⟨⟩
  · intro j _ hholds
    cases hfree.symm.trans hholds
  · rw [Event.task, System.setTask_tasks_self]
    refine ⟨List.mem_append_left _ (h.stage hrunning).1, .inside haction rfl hinside ?_⟩
    change GoesOn server body d body s.daemon
    rw [h.free hfree]
    exact .refl _ _
  · rintro _ _ _ ⟨⟩

/-- The lock is given back.  What was done under it has its effect as if done alone. -/
theorem InTurn.append_unlock (h : InTurn client server daemon events s completed d)
    {body : Action request.Result} {result : request.Result}
    (hrunning : s.tasks i = .running request (releasing (.done result)))
    (haction : request.action client = underLock body) (hholds : s.holder = some i)
    (hgoes : GoesOn server body d (.done result) s.daemon) :
    InTurn client server daemon (events ++ [.stepped i .unlock ()])
      ({ s with holder := none }.setTask i (.running request (.done result)))
      (completed ++ [⟨i, request, result⟩]) s.daemon := by
  have horder : lockOrder (events ++ [.stepped i .unlock ()]) = lockOrder events :=
    (lockOrder_append ..).trans (List.append_nil _)
  have hends : EndsAt server (request.action client) d result s.daemon := by
    rw [haction]
    exact (hgoes result s.daemon endsAt_done).underLock
  have hstarted := List.mem_append_left [.stepped i .unlock ()] (h.stage hrunning).1
  refine h.append (fun j => System.setTask_tasks_of_ne) (h.ends.snoc hends) ?_ ?_ (fun _ => rfl) ?_
    (List.subset_append_left ..) ?_ ?_ ?_
  · rw [horder, h.order, hholds, List.map_append]
    exact (List.append_nil _).symm
  · rw [horder]
    exact h.nodup
  · intro j hj hother
    exact absurd (Option.some.inj (hholds.symm.trans hother)) hj
  · intro c hc
    rcases List.mem_append.1 hc with hc | hc
    · exact (h.started c hc).imp_left (List.mem_append_left _)
    · rw [List.mem_singleton.1 hc]
      exact ⟨hstarted, Request.isChange_of_action_eq haction⟩
  · rw [Event.task, System.setTask_tasks_self]
    exact ⟨hstarted, .ended (List.mem_append_right _ (List.mem_singleton.2 rfl))⟩
  · rintro _ _ _ ⟨⟩

/-- A step of what changes nothing. -/
theorem InTurn.append_reading (h : InTurn client server daemon events s completed d)
    (hobeys : serves.Obeys server) {step : Step} {next : step.Result → Action request.Result}
    {result : step.Result} (hrunning : s.tasks i = .running request (.ask step next))
    (htakes : Takes serves i s step result s') (hreading : ¬ request.IsChange)
    (hreads : (Interaction.ask step next).Asks Step.Reads) :
    InTurn client server daemon (events ++ [.stepped i step result])
      (s'.setTask i (.running request (next result))) completed d := by
  obtain ⟨hlock, hholder, hdaemon⟩ : (Event.stepped i step result).lockedBy? = none ∧
      s'.holder = s.holder ∧ s'.daemon = s.daemon := by
    cases htakes with
    | call hserves => exact ⟨rfl, rfl, hobeys.reads hserves hreads.1⟩
    | lock => exact hreads.1.elim
    | unlock => exact hreads.1.elim
    | _ => exact ⟨rfl, rfl, rfl⟩
  refine h.append_of_holder_eq (fun j hj => ?_) hlock hholder (.inl hdaemon) ?_ ?_
  · exact (System.setTask_tasks_of_ne hj).trans (congrFun htakes.tasks_eq j)
  · rw [Event.task, System.setTask_tasks_self]
    exact ⟨List.mem_append_left _ (h.stage hrunning).1, .reading hreading (hreads.2 result)⟩
  · rintro _ _ _ ⟨⟩

/-- A step of a change under the lock. -/
theorem InTurn.append_inside (h : InTurn client server daemon events s completed d)
    (hobeys : serves.Obeys server) {body : Action request.Result} {step : Step}
    {next : step.Result → Action request.Result} {result : step.Result}
    (hrunning : s.tasks i = .running request (releasing (.ask step next)))
    (htakes : Takes serves i s step result s') (haction : request.action client = underLock body)
    (hholds : s.holder = some i) (hinside : (Interaction.ask step next).Asks Step.IsInside)
    (hgoes : GoesOn server body d (.ask step next) s.daemon) :
    InTurn client server daemon (events ++ [.stepped i step result])
      (s'.setTask i (.running request (releasing (next result)))) completed d := by
  obtain ⟨hlock, hholder, hrest⟩ : (Event.stepped i step result).lockedBy? = none ∧
      s'.holder = s.holder ∧ GoesOn server body d (next result) s'.daemon := by
    cases htakes with
    | call hserves => exact ⟨rfl, rfl, hgoes.call (hobeys.changes hserves hinside.1)⟩
    | invalidate => exact ⟨rfl, rfl, hgoes.invalidate⟩
    | _ => exact hinside.1.elim
  refine h.append_of_holder_eq (fun j hj => ?_) hlock hholder (.inr hholds) ?_ ?_
  · exact (System.setTask_tasks_of_ne hj).trans (congrFun htakes.tasks_eq j)
  · rw [Event.task, System.setTask_tasks_self]
    exact ⟨List.mem_append_left _ (h.stage hrunning).1,
      .inside haction (hholder.trans hholds) (hinside.2 result) hrest⟩
  · rintro _ _ _ ⟨⟩

/-- A task starts. -/
theorem InTurn.append_start (h : InTurn client server daemon events s completed d)
    (hidle : s.tasks i = .idle) (request : Request) :
    InTurn client server daemon (events ++ [.started i request])
      (s.setTask i (.running request (request.action client))) completed d := by
  refine h.append_of_holder_eq (fun j => System.setTask_tasks_of_ne) rfl rfl (.inl rfl) ?_ ?_
  · rw [Event.task, System.setTask_tasks_self]
    refine ⟨List.mem_append_right _ (List.mem_singleton.2 rfl), ?_⟩
    by_cases hchange : request.IsChange
    · have hnot := h.tasks i
      rw [hidle] at hnot
      refine .waiting hchange ?_
      rw [lockOrder_append]
      exact fun hmem => hnot ((List.append_nil (lockOrder events)) ▸ hmem)
    · exact .reading hchange (Request.action_reads hchange client)
  · rintro _ _ _ ⟨⟩

/-- A task returns. -/
theorem InTurn.append_finish (h : InTurn client server daemon events s completed d)
    {result : request.Result} (hrunning : s.tasks i = .running request (.done result)) :
    InTurn client server daemon (events ++ [.returned i request result])
      (s.setTask i .finished) completed d := by
  refine h.append_of_holder_eq (fun j => System.setTask_tasks_of_ne) rfl rfl (.inl rfl) ?_ ?_
  · rw [Event.task, System.setTask_tasks_self]
    trivial
  · rintro _ _ _ ⟨⟩ hchange
    have hstage := (h.stage hrunning).2
    generalize hrest : Interaction.done result = rest at hstage
    cases hstage with
    | reading hreading => exact absurd hchange hreading
    | waiting =>
      rw [← hrest]
      exact .inr rfl
    | @inside body rest => cases rest <;> cases hrest
    | ended hmem =>
      cases hrest
      exact .inl hmem

/-- One more event. -/
theorem InTurn.next (h : InTurn client server daemon events s completed d)
    (hobeys : serves.Obeys server) (hnext : Next client serves s event s') :
    ∃ completed' d', InTurn client server daemon (events ++ [event]) s' completed' d' := by
  cases hnext with
  | start hidle => exact ⟨completed, d, h.append_start hidle _⟩
  | finish hrunning => exact ⟨completed, d, h.append_finish hrunning⟩
  | @step i request step next result s₁ hrunning htakes =>
    have hstage := (h.stage hrunning).2
    generalize hrest : Interaction.ask step next = rest at hstage
    cases hstage with
    | reading hreading hreads =>
      subst hrest
      exact ⟨completed, d, h.append_reading hobeys hrunning htakes hreading hreads⟩
    | waiting hchange hnot =>
      rcases hchange.action_cases client with ⟨refused, hdone⟩ | ⟨body, haction, hinside⟩
      · cases hrest.trans hdone
      · cases hrest.trans haction
        cases htakes with
        | lock hfree => exact ⟨completed, d, h.append_lock hrunning haction hinside hfree hnot⟩
    | @inside body rest haction hholds hinside hgoes =>
      cases rest with
      | done value =>
        cases hrest
        cases htakes
        exact ⟨_, _, h.append_unlock hrunning haction hholds hgoes⟩
      | ask question next =>
        cases hrest
        exact ⟨completed, d,
          h.append_inside hobeys hrunning htakes haction hholds hinside hgoes⟩
    | ended => cases hrest

/-- In every run, the changes end as if they were carried out one after another, in the order in
which they get the lock. -/
theorem Reaches.exists_inTurn (hreach : Reaches client serves daemon events s)
    (hobeys : serves.Obeys server) :
    ∃ completed d, InTurn client server daemon events s completed d := by
  induction hreach with
  | initial => exact ⟨[], daemon, inTurn_initial⟩
  | next _ hnext ih =>
    obtain ⟨completed, d, h⟩ := ih
    exact h.next hobeys hnext

end Runs

end TorrentRemote.Client
