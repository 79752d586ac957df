import Mathlib.Tactic.TypeStar

/-!
# Programs over an external device

A routine that talks to a device (a store, a bus, a clock) is modelled as the
tree of its calls.  What the device may answer, and what it does to the world
on the way, is an `Environment`.  Three judgements are read off the tree: how a
run may finish, in which worlds the power may fail while it is under way, and
which calls it issues.

`Program.Ensures` is the corresponding crash-aware precondition: a statement about
every finished run and every interruption.  Its rules follow the structure of a
routine.
-/

namespace Fermentationsschrank

/-- A routine with result `α` that issues calls and inspects their replies. -/
inductive Program {Call : Type} (Reply : Call → Type) (α : Type) : Type
  | done (result : α)
  | call (request : Call) (next : Reply request → Program Reply α)

/-- The replies a device may give in a world, with the world afterwards. -/
abbrev Environment {Call : Type} (Reply : Call → Type) (World : Type) :=
  World → (request : Call) → Reply request → World → Prop

namespace Program

variable {Call : Type} {Reply : Call → Type} {World α β : Type}

protected def bind : Program Reply α → (α → Program Reply β) → Program Reply β
  | done result, next => next result
  | call request continue_, next =>
      call request fun reply => (continue_ reply).bind next

instance : Monad (Program Reply) where
  pure := done
  bind := Program.bind

@[simp]
theorem pure_eq_done (result : α) :
    (pure result : Program Reply α) = done result := rfl

@[simp]
theorem bind_done (result : α) (next : α → Program Reply β) :
    (done result : Program Reply α) >>= next = next result := rfl

@[simp]
theorem bind_call (request : Call) (continue_ : Reply request → Program Reply α)
    (next : α → Program Reply β) :
    call request continue_ >>= next =
      call request fun reply => continue_ reply >>= next := rfl

/-! ## Runs and interruptions -/

/-- A run of the routine from the first world that returns in the last one. -/
inductive Finishes (environment : Environment Reply World) :
    Program Reply α → World → α → World → Prop
  | done {result world} : Finishes environment (done result) world result world
  | call {request next reply world middle result last} :
      environment world request reply middle →
        Finishes environment (next reply) middle result last →
          Finishes environment (call request next) world result last

/-- A world in which the routine is about to issue a call or to return, that
is, a world that survives when the power fails. -/
inductive Interrupted (environment : Environment Reply World) :
    Program Reply α → World → World → Prop
  | here {routine world} : Interrupted environment routine world world
  | later {request next reply world middle last} :
      environment world request reply middle →
        Interrupted environment (next reply) middle last →
          Interrupted environment (call request next) world last

/-- Every interruption leaves a world in `crash`, and every finished run meets
`post`. -/
def Ensures (environment : Environment Reply World) (crash : World → Prop)
    (post : α → World → Prop) : Program Reply α → World → Prop
  | done result, world => crash world ∧ post result world
  | call request next, world => crash world ∧
      ∀ reply middle, environment world request reply middle →
        Ensures environment crash post (next reply) middle

variable {environment : Environment Reply World} {crash : World → Prop}
variable {post : α → World → Prop}

theorem Ensures.crash_start {routine : Program Reply α} {world : World}
    (h : Ensures environment crash post routine world) : crash world := by
  cases routine with
  | done result => exact h.1
  | call request next => exact h.1

theorem Ensures.interrupted {routine : Program Reply α} {world last : World}
    (h : Ensures environment crash post routine world)
    (hcut : Interrupted environment routine world last) : crash last := by
  induction hcut with
  | here => exact h.crash_start
  | later hreply _ ih => exact ih (h.2 _ _ hreply)

theorem Ensures.finishes {routine : Program Reply α} {world last : World}
    {result : α} (h : Ensures environment crash post routine world)
    (hrun : Finishes environment routine world result last) :
    post result last := by
  induction hrun with
  | done => exact h.2
  | call hreply _ ih => exact ih (h.2 _ _ hreply)

/-- A finished run leaves a world that survives as well. -/
theorem Ensures.crash_finishes {routine : Program Reply α} {world last : World}
    {result : α} (h : Ensures environment crash post routine world)
    (hrun : Finishes environment routine world result last) : crash last := by
  induction hrun with
  | done => exact h.1
  | call hreply _ ih => exact ih (h.2 _ _ hreply)

theorem Ensures.mono {crash' : World → Prop} {post' : α → World → Prop}
    {routine : Program Reply α} {world : World}
    (h : Ensures environment crash post routine world)
    (hcrash : ∀ world, crash world → crash' world)
    (hpost : ∀ result world, crash world → post result world → post' result world) :
    Ensures environment crash' post' routine world := by
  induction routine generalizing world with
  | done result => exact ⟨hcrash _ h.1, hpost _ _ h.1 h.2⟩
  | call request next ih =>
      exact ⟨hcrash _ h.1, fun reply middle hreply => ih reply (h.2 reply middle hreply)⟩

/-- Sequential composition: the second routine starts from whatever the first
one establishes. -/
theorem ensures_bind {routine : Program Reply α} {next : α → Program Reply β}
    {post : β → World → Prop} {world : World} :
    Ensures environment crash post (routine >>= next) world ↔
      Ensures environment crash
        (fun result => Ensures environment crash post (next result)) routine world := by
  induction routine generalizing world with
  | done result =>
      constructor
      · intro h
        exact ⟨h.crash_start, h⟩
      · intro h
        exact h.2
  | call request continue_ ih =>
      simp only [bind_call, Ensures]
      constructor
      · intro h
        exact ⟨h.1, fun reply middle hreply => (ih reply).mp (h.2 reply middle hreply)⟩
      · intro h
        exact ⟨h.1, fun reply middle hreply => (ih reply).mpr (h.2 reply middle hreply)⟩

@[simp]
theorem ensures_done {result : α} {world : World} :
    Ensures environment crash post (done result) world ↔
      crash world ∧ post result world := Iff.rfl

@[simp]
theorem ensures_call {request : Call} {next : Reply request → Program Reply α}
    {world : World} :
    Ensures environment crash post (call request next) world ↔
      crash world ∧ ∀ reply middle, environment world request reply middle →
        Ensures environment crash post (next reply) middle := Iff.rfl

/-! ## Results alone -/

/-- Whatever the device replies, the result is in `post`. -/
def Yields (post : α → Prop) : Program Reply α → Prop
  | done result => post result
  | call _ next => ∀ reply, Yields post (next reply)

theorem Yields.finishes {post : α → Prop} {routine : Program Reply α} {world last : World}
    {result : α} (h : Yields post routine)
    (hrun : Finishes environment routine world result last) : post result := by
  induction hrun with
  | done => exact h
  | call _ _ ih => exact ih (h _)

theorem yields_of_forall {post : α → Prop} (h : ∀ result, post result)
    (routine : Program Reply α) : Yields post routine := by
  induction routine with
  | done result => exact h result
  | call _ next ih => exact ih

theorem Yields.mono {post post' : α → Prop} {routine : Program Reply α}
    (h : Yields post routine) (hpost : ∀ result, post result → post' result) :
    Yields post' routine := by
  induction routine with
  | done result => exact hpost result h
  | call _ next ih => exact fun reply => ih reply (h reply)

theorem yields_bind {routine : Program Reply α} {next : α → Program Reply β}
    {post : β → Prop} :
    Yields post (routine >>= next) ↔
      Yields (fun result => Yields post (next result)) routine := by
  induction routine with
  | done result => rfl
  | call _ continue_ ih => exact forall_congr' ih

/-- Only allowed calls are issued, and every result is in `post`. -/
def Only (allowed : Call → Prop) (post : α → Prop) : Program Reply α → Prop
  | done result => post result
  | call request next => allowed request ∧ ∀ reply, Only allowed post (next reply)

theorem Only.yields {allowed : Call → Prop} {post : α → Prop} {routine : Program Reply α}
    (h : Only allowed post routine) : Yields post routine := by
  induction routine with
  | done result => exact h
  | call _ next ih => exact fun reply => ih reply (h.2 reply)

theorem Only.mono {allowed : Call → Prop} {post post' : α → Prop}
    {routine : Program Reply α} (h : Only allowed post routine)
    (hpost : ∀ result, post result → post' result) : Only allowed post' routine := by
  induction routine with
  | done result => exact hpost result h
  | call _ next ih => exact ⟨h.1, fun reply => ih reply (h.2 reply)⟩

/-- Calls that leave the world alone leave it alone in a whole run. -/
theorem Only.finishes {allowed : Call → Prop} {post : α → Prop}
    {routine : Program Reply α} {world last : World} {result : α}
    (h : Only allowed post routine)
    (hquiet : ∀ world request reply middle, allowed request →
      environment world request reply middle → middle = world)
    (hrun : Finishes environment routine world result last) :
    last = world ∧ post result := by
  induction hrun with
  | done => exact ⟨rfl, h⟩
  | call hreply _ ih =>
      obtain ⟨hallowed, hnext⟩ := h
      obtain ⟨hlast, hresult⟩ := ih (hnext _)
      exact ⟨hlast.trans (hquiet _ _ _ _ hallowed hreply), hresult⟩

theorem only_bind {allowed : Call → Prop} {post : β → Prop} {routine : Program Reply α}
    {next : α → Program Reply β}
    (h : Only allowed (fun result => Only allowed post (next result)) routine) :
    Only allowed post (routine >>= next) := by
  induction routine with
  | done result => exact h
  | call _ continue_ ih => exact ⟨h.1, fun reply => ih reply (h.2 reply)⟩

/-! ## Calls -/

/-- A call that a run issues, with the world it is issued in. -/
inductive Issues (environment : Environment Reply World) :
    Program Reply α → World → Call → World → Prop
  | here {request next world} :
      Issues environment (call request next) world request world
  | later {request next reply world middle issued last} :
      environment world request reply middle →
        Issues environment (next reply) middle issued last →
          Issues environment (call request next) world issued last

theorem Issues.mono {environment' : Environment Reply World} {routine : Program Reply α}
    {world last : World} {request : Call}
    (h : Issues environment routine world request last)
    (hallowed : ∀ world request reply middle, environment world request reply middle →
      environment' world request reply middle) :
    Issues environment' routine world request last := by
  induction h with
  | here => exact .here
  | later hreply _ ih => exact .later (hallowed _ _ _ _ hreply) ih

/-- Every call of every run is allowed in the world it is issued in. -/
def Respects (environment : Environment Reply World) (allowed : World → Call → Prop) :
    Program Reply α → World → Prop
  | done _, _ => True
  | call request next, world => allowed world request ∧
      ∀ reply middle, environment world request reply middle →
        Respects environment allowed (next reply) middle

variable {allowed : World → Call → Prop}

theorem Respects.issued {routine : Program Reply α} {world last : World} {request : Call}
    (h : Respects environment allowed routine world)
    (hissued : Issues environment routine world request last) : allowed last request := by
  induction hissued with
  | here => exact h.1
  | later hreply _ ih => exact ih (h.2 _ _ hreply)

/-- The second routine starts from whatever the first one finishes with. -/
theorem respects_bind {routine : Program Reply α} {next : α → Program Reply β}
    {world : World} (h : Respects environment allowed routine world)
    (hnext : ∀ result middle, Finishes environment routine world result middle →
      Respects environment allowed (next result) middle) :
    Respects environment allowed (routine >>= next) world := by
  induction routine generalizing world with
  | done result => exact hnext _ _ .done
  | call request continue_ ih =>
      refine ⟨h.1, fun reply middle hreply => ?_⟩
      exact ih reply (h.2 reply middle hreply) fun result last hrun =>
        hnext result last (.call hreply hrun)

theorem Only.respects {quiet : Call → Prop} {post : α → Prop} {routine : Program Reply α}
    {world : World} (h : Only quiet post routine)
    (hallowed : ∀ world request, quiet request → allowed world request) :
    Respects environment allowed routine world := by
  induction routine generalizing world with
  | done result => trivial
  | call request next ih =>
      exact ⟨hallowed world request h.1, fun reply middle _ => ih reply (h.2 reply)⟩

theorem Only.issued {quiet : Call → Prop} {post : α → Prop} {routine : Program Reply α}
    {world last : World} {request : Call} (h : Only quiet post routine)
    (hissued : Issues environment routine world request last) : quiet request := by
  induction hissued with
  | here => exact h.1
  | later _ _ ih => exact ih (h.2 _)

/-! ## Deterministic devices -/

/-- Run against a device that always gives the same answer. -/
def run (handler : World → (request : Call) → Reply request × World) :
    Program Reply α → World → α × World
  | done result, world => (result, world)
  | call request next, world =>
      let answer := handler world request
      run handler (next answer.1) answer.2

@[simp]
theorem run_done (handler : World → (request : Call) → Reply request × World)
    (result : α) (world : World) :
    run handler (done result) world = (result, world) := rfl

theorem run_bind (handler : World → (request : Call) → Reply request × World)
    (routine : Program Reply α) (next : α → Program Reply β) (world : World) :
    run handler (routine >>= next) world =
      run handler (next (run handler routine world).1)
        (run handler routine world).2 := by
  induction routine generalizing world with
  | done result => rfl
  | call request continue_ ih =>
      simp only [bind_call, run]
      exact ih _ _

/-- The calls of the run, each with the world it meets. -/
def calls (handler : World → (request : Call) → Reply request × World) :
    Program Reply α → World → List (World × Call)
  | done _, _ => []
  | call request next, world =>
      let answer := handler world request
      (world, request) :: calls handler (next answer.1) answer.2

theorem issues_of_calls {handler : World → (request : Call) → Reply request × World}
    (hallowed : ∀ world request, environment world request (handler world request).1
      (handler world request).2) {routine : Program Reply α} {world last : World}
    {request : Call} (h : (last, request) ∈ routine.calls handler world) :
    Issues environment routine world request last := by
  induction routine generalizing world with
  | done result => cases h
  | call first next ih =>
      rcases List.mem_cons.mp h with hhere | hlater
      · cases hhere
        exact .here
      · exact .later (hallowed world first) (ih _ hlater)

/-- A device that the environment allows finishes every routine. -/
theorem finishes_run {handler : World → (request : Call) → Reply request × World}
    (hallowed : ∀ world request, environment world request (handler world request).1
      (handler world request).2) (routine : Program Reply α) (world : World) :
    Finishes environment routine world (routine.run handler world).1
      (routine.run handler world).2 := by
  induction routine generalizing world with
  | done result => exact .done
  | call request next ih => exact .call (hallowed world request) (ih _ _)

/-- What is ensured holds of the run against a device that the environment
allows. -/
theorem Ensures.run {handler : World → (request : Call) → Reply request × World}
    {routine : Program Reply α} {world : World}
    (h : Ensures environment crash post routine world)
    (hallowed : ∀ world request, environment world request (handler world request).1
      (handler world request).2) :
    post (routine.run handler world).1 (routine.run handler world).2 :=
  h.finishes (finishes_run hallowed routine world)

end Program

end Fermentationsschrank
