/-
# Requests made of several transactions

A request is a program of calls to a store. Each call is atomic, but between two
calls of one request any other request may be served, so what a request read may
be out of date when it writes. A request is safe when every call it makes is an
allowed one, whatever others do in between: the rely relation says what they may
do, and each allowed call has to keep to it in turn.

Served one after the other, without anything in between, requests are programs of
an ordinary sequential language, and the same predicate with an exact rely is its
program logic.
-/

import BusinessAssistant.Foundation.System
import Mathlib.Data.List.Basic

namespace BusinessAssistant.Foundation

/-- A request: it ends, or makes a call and goes on with what the call returns or
raises. -/
inductive Program (Call : Type) (Reply : Call → Type) (ε α : Type)
  | done (outcome : Except ε α)
  | call (c : Call) (next : Except ε (Reply c) → Program Call Reply ε α)

namespace Program

variable {Call : Type} {Reply : Call → Type} {ε α β : Type}

/-- Make one call and return its reply. -/
def perform (c : Call) : Program Call Reply ε (Reply c) := .call c .done

def raise (error : ε) : Program Call Reply ε α := .done (.error error)

/-- Go on with `f` when the request so far returns, and end when it raises. -/
protected def bind (f : α → Program Call Reply ε β) :
    Program Call Reply ε α → Program Call Reply ε β
  | .done (.ok value) => f value
  | .done (.error error) => .done (.error error)
  | .call c next => .call c fun reply => (next reply).bind f

/-- `try` the request, and go on with `handle` when it raises. -/
def catchError (handle : ε → Program Call Reply ε α) :
    Program Call Reply ε α → Program Call Reply ε α
  | .done (.ok value) => .done (.ok value)
  | .done (.error error) => handle error
  | .call c next => .call c fun reply => (next reply).catchError handle

instance : Monad (Program Call Reply ε) where
  pure value := .done (.ok value)
  bind program f := program.bind f

/-- The value found, or `error` when there is none. -/
def fetch (found : Option α) (error : ε) : Program Call Reply ε α :=
  match found with
  | some value => pure value
  | none => raise error

/-- Raise `error` unless `condition` holds. -/
def require (condition : Prop) [Decidable condition] (error : ε) : Program Call Reply ε Unit :=
  if condition then pure () else raise error

/-- Run a computation that makes no call. -/
def lift (computation : Except ε α) : Program Call Reply ε α := .done computation

theorem fetch_bind_some {value : α} {error : ε} {f : α → Program Call Reply ε β} :
    fetch (some value) error >>= f = f value := rfl

theorem fetch_bind_none {error : ε} {f : α → Program Call Reply ε β} :
    fetch none error >>= f = raise error := rfl

theorem require_bind_of_not {condition : Prop} [Decidable condition] {error : ε}
    {f : Unit → Program Call Reply ε β} (h : ¬ condition) :
    require condition error >>= f = raise error := by
  rw [require, if_neg h]
  rfl

/-! ## Safety -/

section Safety

variable {σ Env : Type} (serve : (c : Call) → Env → σ → Except ε (Reply c) × σ)
  (admits : σ → Env → Prop) (rely : σ → σ → Prop) (allowed : σ → Call → Prop)

/-- Whatever others do between its calls, every call of the program is allowed, and
it ends as `post` says. -/
def Safe (post : Except ε α → σ → Prop) : Program Call Reply ε α → σ → Prop
  | .done outcome, s => post outcome s
  | .call c next, s => ∀ s', rely s s' → allowed s' c ∧ ∀ env, admits s' env →
      Safe post (next (serve c env s').1) (serve c env s').2

variable {serve admits rely allowed} {post : Except ε α → σ → Prop}
  {post' : Except ε β → σ → Prop}

/-- A program that has not been served yet stays safe while others are served. -/
theorem Safe.stable (htrans : ∀ s middle last, rely s middle → rely middle last → rely s last)
    (hpost : ∀ outcome s s', rely s s' → post outcome s → post outcome s')
    {program : Program Call Reply ε α} {s s' : σ} (hrely : rely s s')
    (h : Safe serve admits rely allowed post program s) :
    Safe serve admits rely allowed post program s' := by
  cases program with
  | done outcome => exact hpost outcome s s' hrely h
  | call c next =>
      intro last hlast
      exact h last (htrans s s' last hrely hlast)

/-- The rule of consequence. -/
theorem Safe.mono {weaker : Except ε α → σ → Prop} {program : Program Call Reply ε α} {s : σ}
    (hpost : ∀ outcome s, post outcome s → weaker outcome s)
    (h : Safe serve admits rely allowed post program s) :
    Safe serve admits rely allowed weaker program s := by
  induction program generalizing s with
  | done outcome => exact hpost outcome s h
  | call c next ih =>
      intro s' hrely
      obtain ⟨hallowed, hnext⟩ := h s' hrely
      refine ⟨hallowed, ?_⟩
      intro env henv
      exact ih _ (hnext env henv)

/-- The rule of sequencing: an error passes the rest by. -/
theorem Safe.bind {program : Program Call Reply ε α} {f : α → Program Call Reply ε β} {s : σ}
    (h : Safe serve admits rely allowed post program s)
    (hvalue : ∀ value s, post (.ok value) s → Safe serve admits rely allowed post' (f value) s)
    (herror : ∀ error s, post (.error error) s → post' (.error error) s) :
    Safe serve admits rely allowed post' (program >>= f) s := by
  induction program generalizing s with
  | done outcome =>
      cases outcome with
      | ok value => exact hvalue value s h
      | error error => exact herror error s h
  | call c next ih =>
      intro s' hrely
      obtain ⟨hallowed, hnext⟩ := h s' hrely
      refine ⟨hallowed, ?_⟩
      intro env henv
      exact ih _ (hnext env henv)

/-- What a program whose next call is served has to expect. -/
theorem Safe.of_call {c : Call} {next : Except ε (Reply c) → Program Call Reply ε α} {s s' : σ}
    (h : Safe serve admits rely allowed post (.call c next) s) (hrely : rely s s') :
    allowed s' c ∧ ∀ env, admits s' env →
      Safe serve admits rely allowed post (next (serve c env s').1) (serve c env s').2 :=
  h s' hrely

/-- The rule for one call. -/
theorem Safe.perform {c : Call} {post : Except ε (Reply c) → σ → Prop} {s : σ}
    (h : ∀ s', rely s s' → allowed s' c ∧ ∀ env, admits s' env →
      post (serve c env s').1 (serve c env s').2) :
    Safe serve admits rely allowed post (Program.perform c) s := h

/-- The rule for a program that returns at once. -/
theorem Safe.returns {value : α} {s : σ} (h : post (.ok value) s) :
    Safe serve admits rely allowed post (pure value : Program Call Reply ε α) s := h

/-- The rule for a program that raises at once. -/
theorem Safe.raises {error : ε} {s : σ} (h : post (.error error) s) :
    Safe serve admits rely allowed post (Program.raise error : Program Call Reply ε α) s := h

/-! Mostly all that matters is what holds when the program returns. -/

/-- The program says something only of what it returns. -/
def Returning (Q : α → σ → Prop) (outcome : Except ε α) (s : σ) : Prop :=
  ∀ value, outcome = .ok value → Q value s

variable {Q : α → σ → Prop} {Q' : β → σ → Prop} {K : σ → Prop}

theorem Safe.returning_pure {value : α} {s : σ} (hQ : Q value s) :
    Safe serve admits rely allowed (Returning Q)
      (pure value : Program Call Reply ε α) s := by
  intro other hother
  cases hother
  exact hQ

theorem Safe.returning_bind {program : Program Call Reply ε α} {f : α → Program Call Reply ε β}
    {s : σ} (h : Safe serve admits rely allowed (Returning Q) program s)
    (hvalue : ∀ value s, Q value s → Safe serve admits rely allowed (Returning Q') (f value) s) :
    Safe serve admits rely allowed (Returning Q') (program >>= f) s := by
  apply h.bind
  · intro value s hpost
    exact hvalue value s (hpost value rfl)
  · intro error s _ value hvalue
    cases hvalue

/-- The rule for one call. -/
theorem Safe.returning_perform {c : Call} {Q : Reply c → σ → Prop} {s : σ}
    (hallowed : ∀ s', rely s s' → allowed s' c)
    (hreply : ∀ s' env reply, rely s s' → admits s' env →
      (serve c env s').1 = .ok reply → Q reply (serve c env s').2) :
    Safe serve admits rely allowed (Returning Q) (Program.perform c) s := by
  apply Safe.perform
  intro s' hs'
  exact ⟨hallowed s' hs', fun env henv reply hok => hreply s' env reply hs' henv hok⟩

/-- The rule for a call that disturbs nothing of what is known. -/
theorem Safe.returning_keep {c : Call} {s : σ} (hK : K s)
    (hrely : ∀ s s', K s → rely s s' → K s')
    (hkeep : ∀ s env, K s → admits s env → K (serve c env s).2)
    (hallowed : ∀ s, K s → allowed s c) :
    Safe serve admits rely allowed (Returning fun _ s => K s) (Program.perform c) s := by
  apply Safe.returning_perform
  · intro s' hs'
    exact hallowed s' (hrely s s' hK hs')
  · intro s' env _ hs' henv _
    exact hkeep s' env (hrely s s' hK hs') henv

theorem Safe.returning_fetch {found : Option α} {error : ε} {s : σ} (hK : K s) :
    Safe serve admits rely allowed (Returning fun value s => found = some value ∧ K s)
      (Program.fetch found error) s := by
  cases found with
  | none => exact fun value hvalue => by cases hvalue
  | some value => exact fun other hother => by cases hother; exact ⟨rfl, hK⟩

theorem Safe.returning_require {condition : Prop} [Decidable condition] {error : ε} {s : σ}
    (hK : K s) :
    Safe serve admits rely allowed (Returning fun _ s => condition ∧ K s)
      (Program.require condition error) s := by
  by_cases hcondition : condition
  · rw [Program.require, if_pos hcondition]
    exact fun _ _ => ⟨hcondition, hK⟩
  · rw [Program.require, if_neg hcondition]
    exact fun value hvalue => by cases hvalue

theorem Safe.returning_lift {computation : Except ε α} {s : σ} (hK : K s) :
    Safe serve admits rely allowed (Returning fun value s => computation = .ok value ∧ K s)
      (Program.lift computation) s :=
  fun _ hvalue => ⟨hvalue, hK⟩

/-- Every call a program can make, whatever it is answered, is one of `P`. -/
def Makes (P : Call → Prop) : Program Call Reply ε α → Prop
  | .done _ => True
  | .call c next => P c ∧ ∀ reply, Makes P (next reply)

variable {P : Call → Prop}

theorem Makes.bind {program : Program Call Reply ε α} {f : α → Program Call Reply ε β}
    (hprogram : program.Makes P) (hrest : ∀ value, (f value).Makes P) :
    (program >>= f).Makes P := by
  induction program with
  | done outcome =>
      cases outcome with
      | ok value => exact hrest value
      | error error => trivial
  | call c next ih => exact ⟨hprogram.1, fun reply => ih reply (hprogram.2 reply)⟩

theorem Makes.perform {c : Call} (hcall : P c) :
    (Program.perform c : Program Call Reply ε (Reply c)).Makes P :=
  ⟨hcall, fun _ => trivial⟩

theorem Makes.fetch (found : Option α) (error : ε) :
    (Program.fetch found error : Program Call Reply ε α).Makes P := by
  cases found <;> trivial

theorem Makes.require (condition : Prop) [Decidable condition] (error : ε) :
    (Program.require condition error : Program Call Reply ε Unit).Makes P := by
  unfold Program.require
  split <;> trivial

/-- A program that makes only calls that are always allowed is safe. -/
theorem Makes.safe {program : Program Call Reply ε α} (hallowed : ∀ s c, P c → allowed s c)
    (h : program.Makes P) (s : σ) :
    Safe serve admits rely allowed (fun _ _ => True) program s := by
  induction program generalizing s with
  | done outcome => trivial
  | call c next ih =>
      intro s' _
      exact ⟨hallowed s' c h.1, fun env _ => ih _ (h.2 _) _⟩

/-- What every call a program can make keeps, the program keeps. -/
theorem Makes.keeps {program : Program Call Reply ε α} {s : σ}
    (hrely : ∀ s s', rely s s' → K s → K s') (hallowed : ∀ s c, P c → allowed s c)
    (hkeep : ∀ c env s, P c → K s → K (serve c env s).2) (h : program.Makes P) (hK : K s) :
    Safe serve admits rely allowed (fun _ s => K s) program s := by
  induction program generalizing s with
  | done outcome => exact hK
  | call c next ih =>
      intro s' hs'
      refine ⟨hallowed s' c h.1, ?_⟩
      intro env _
      exact ih _ (h.2 _) (hkeep c env s' h.1 (hrely s s' hs' hK))

end Safety

/-! ## Requests served one after the other -/

section Sequential

variable {σ Env : Type} (serve : (c : Call) → Env → σ → Except ε (Reply c) × σ)

/-- Serve the calls of a program in order, each with its own environment; `none`
when there are more or fewer environments than calls. -/
def exec : Program Call Reply ε α → List Env → σ → Option (Except ε α × σ)
  | .done outcome, [], s => some (outcome, s)
  | .done _, _ :: _, _ => none
  | .call _ _, [], _ => none
  | .call c next, env :: envs, s => exec (next (serve c env s).1) envs (serve c env s).2

/-- The environments of a run are admitted, each by the state it is met in. -/
def Admitted (admits : σ → Env → Prop) : Program Call Reply ε α → List Env → σ → Prop
  | .call c next, env :: envs, s =>
      admits s env ∧ Admitted admits (next (serve c env s).1) envs (serve c env s).2
  | _, _, _ => True

instance (admits : σ → Env → Prop) [∀ s, DecidablePred (admits s)]
    (program : Program Call Reply ε α) (envs : List Env) (s : σ) :
    Decidable (Admitted serve admits program envs s) :=
  go program envs s
where
  go : (program : Program Call Reply ε α) → (envs : List Env) → (s : σ) →
      Decidable (Admitted serve admits program envs s)
    | .done _, _, _ => .isTrue trivial
    | .call _ _, [], _ => .isTrue trivial
    | .call c next, env :: envs, s =>
        have := go (next (serve c env s).1) envs (serve c env s).2
        inferInstanceAs (Decidable (_ ∧ _))

variable {serve} {admits : σ → Env → Prop} {rely : σ → σ → Prop} {allowed : σ → Call → Prop}
  {post : Except ε α → σ → Prop}

/-- A safe program served without interruption ends as it says, and an invariant
that every allowed call keeps is kept. -/
theorem Safe.exec {I : σ → Prop} (hrefl : ∀ s, I s → rely s s)
    (hkeep : ∀ s c env, I s → allowed s c → admits s env → I (serve c env s).2)
    {program : Program Call Reply ε α} {envs : List Env} {s s' : σ} {outcome : Except ε α}
    (h : Safe serve admits rely allowed post program s)
    (henvs : Admitted serve admits program envs s) (hI : I s)
    (hexec : program.exec serve envs s = some (outcome, s')) : I s' ∧ post outcome s' := by
  induction program generalizing envs s with
  | done result =>
      cases envs with
      | nil =>
          cases hexec
          exact ⟨hI, h⟩
      | cons env envs => cases hexec
  | call c next ih =>
      cases envs with
      | nil => cases hexec
      | cons env envs =>
          obtain ⟨hallowed, hnext⟩ := h s (hrefl s hI)
          obtain ⟨hadmits, hrest⟩ := henvs
          exact ih _ (hnext env hadmits) hrest (hkeep s c env hI hallowed hadmits) hexec

theorem Admitted.of_forall {program : Program Call Reply ε α} {envs : List Env} {s : σ}
    (henvs : ∀ env ∈ envs, ∀ s, admits s env) : Admitted serve admits program envs s := by
  induction program generalizing envs s with
  | done outcome => trivial
  | call c next ih =>
      cases envs with
      | nil => trivial
      | cons env envs =>
          exact ⟨henvs env List.mem_cons_self s,
            ih _ fun other hother => henvs other (List.mem_cons_of_mem _ hother)⟩

/-- Every environment of a run is one of those given. -/
theorem Admitted.mem {program : Program Call Reply ε α} {envs all : List Env} {s : σ}
    (hsub : ∀ env ∈ envs, env ∈ all) (h : Admitted serve admits program envs s) :
    Admitted serve (fun s env => admits s env ∧ env ∈ all) program envs s := by
  induction program generalizing envs s with
  | done outcome => trivial
  | call c next ih =>
      cases envs with
      | nil => trivial
      | cons env envs =>
          obtain ⟨hadmits, hrest⟩ := h
          refine ⟨⟨hadmits, hsub env List.mem_cons_self⟩, ?_⟩
          exact ih _ (fun other hother => hsub other (List.mem_cons_of_mem _ hother)) hrest

end Sequential

-- From here on programs are shown safe by the rules.
attribute [irreducible] Safe

end Program

/-! ## Requests served concurrently -/

/-- What a server does next: take in a request, or serve the next call of one. -/
inductive Event (Op Env : Type)
  | arrive (op : Op)
  | serve (index : Nat) (env : Env)
  deriving DecidableEq

/-- The store, and the requests in whatever state they are. -/
structure Pool (σ Call : Type) (Reply : Call → Type) (ε α : Type) where
  store : σ
  requests : List (Program Call Reply ε α)

section Concurrent

variable {Op Env σ Call : Type} {Reply : Call → Type} {ε α : Type}
  (init : σ → Prop) (admits : σ → Env → Prop) (program : Op → Program Call Reply ε α)
  (serve : (c : Call) → Env → σ → Except ε (Reply c) × σ)

/-- The call the request at a place makes next. -/
def Pool.nextCall? (pool : Pool σ Call Reply ε α) (index : Nat) : Option Call :=
  match pool.requests[index]? with
  | some (.call c _) => some c
  | some (.done _) | none => none

/-- Serve the next call of the request at a place. -/
inductive Pool.Serves (index : Nat) (env : Env) (c : Call) :
    Pool σ Call Reply ε α → Pool σ Call Reply ε α → Prop
  | mk {pool : Pool σ Call Reply ε α} {next : Except ε (Reply c) → Program Call Reply ε α}
      (hnext : pool.requests[index]? = some (.call c next)) :
      Pool.Serves index env c pool
        { store := (serve c env pool.store).2
          requests := pool.requests.set index (next (serve c env pool.store).1) }

/-- The server: requests arrive at any time, and their calls are served in any
order. -/
def concurrent : System (Pool σ Call Reply ε α) (Event Op Env) where
  init pool := init pool.store ∧ pool.requests = []
  step pool event pool' :=
    match event with
    | .arrive op => pool' = { pool with requests := pool.requests ++ [program op] }
    | .serve index env => admits pool.store env ∧ ∃ c, Pool.Serves serve index env c pool pool'

/-- What an event makes of the server; one for a request that makes no call is passed
over. -/
def Pool.next (pool : Pool σ Call Reply ε α) : Event Op Env → Pool σ Call Reply ε α
  | .arrive op => { pool with requests := pool.requests ++ [program op] }
  | .serve index env =>
      match pool.requests[index]? with
      | some (.call c next) =>
          { store := (serve c env pool.store).2
            requests := pool.requests.set index (next (serve c env pool.store).1) }
      | some (.done _) | none => pool

/-- An event that can happen: a request that is served makes a call. -/
def Pool.Ready (pool : Pool σ Call Reply ε α) : Event Op Env → Prop
  | .arrive _ => True
  | .serve index env => (pool.nextCall? index).isSome = true ∧ admits pool.store env

instance Pool.decidableReady [∀ s, DecidablePred (admits s)] (pool : Pool σ Call Reply ε α)
    (event : Event Op Env) : Decidable (Pool.Ready admits pool event) :=
  match event with
  | .arrive _ => .isTrue trivial
  | .serve _ _ => inferInstanceAs (Decidable (_ ∧ _))

variable {init admits program serve} {rely : σ → σ → Prop} {allowed : σ → Call → Prop}
  {I : σ → Prop}

theorem Pool.Serves.nextCall {pool pool' : Pool σ Call Reply ε α} {index : Nat} {env : Env}
    {c : Call} (hserves : Pool.Serves serve index env c pool pool') :
    pool.nextCall? index = some c := by
  cases hserves with
  | mk hnext => simp only [Pool.nextCall?, hnext]

/-- What the store does when a call is served. -/
theorem Pool.Serves.store {pool pool' : Pool σ Call Reply ε α} {index : Nat} {env : Env}
    {c : Call} (hserves : Pool.Serves serve index env c pool pool') :
    pool'.store = (serve c env pool.store).2 := by
  cases hserves with
  | mk hnext => rfl

/-- A request that makes a call can be served. -/
theorem Pool.serves_next {pool : Pool σ Call Reply ε α} {index : Nat} {c : Call} (env : Env)
    (hcall : pool.nextCall? index = some c) :
    Pool.Serves serve index env c pool (pool.next program serve (.serve index env : Event Op Env)) := by
  cases hrequest : pool.requests[index]? with
  | none => simp [Pool.nextCall?, hrequest] at hcall
  | some request =>
      cases request with
      | done outcome => simp [Pool.nextCall?, hrequest] at hcall
      | call own next =>
          simp only [Pool.nextCall?, hrequest, Option.some.injEq] at hcall
          subst hcall
          simp only [Pool.next, hrequest]
          exact .mk hrequest

/-- Events that can happen lead on. -/
theorem Pool.step_next {pool : Pool σ Call Reply ε α} {event : Event Op Env}
    (hready : Pool.Ready admits pool event) :
    (concurrent init admits program serve).step pool event (pool.next program serve event) := by
  cases event with
  | arrive op => exact rfl
  | serve index env =>
      obtain ⟨hcall, hadmits⟩ := hready
      obtain ⟨c, hcall⟩ := Option.isSome_iff_exists.mp hcall
      exact ⟨hadmits, c, Pool.serves_next env hcall⟩

/-- When requests are safe and the allowed calls keep to the rely relation, every
pending request is safe in every reachable state. -/
theorem concurrent_safe (hinit : ∀ s, init s → I s) (hrefl : ∀ s, I s → rely s s)
    (htrans : ∀ s middle last, rely s middle → rely middle last → rely s last)
    (hprogram : ∀ op s, I s → (program op).Safe serve admits rely allowed (fun _ _ => True) s)
    (hserve : ∀ s c env, I s → allowed s c → admits s env →
      I (serve c env s).2 ∧ rely s (serve c env s).2)
    {pool : Pool σ Call Reply ε α}
    (hpool : (concurrent init admits program serve).Reachable pool) :
    I pool.store ∧ ∀ request ∈ pool.requests,
      request.Safe serve admits rely allowed (fun _ _ => True) pool.store := by
  induction hpool with
  | init hstart =>
      obtain ⟨hstore, hnone⟩ := hstart
      refine ⟨hinit _ hstore, ?_⟩
      intro request hrequest
      rw [hnone] at hrequest
      cases hrequest
  | @step pool pool' event _ hstep ih =>
      obtain ⟨hI, hsafe⟩ := ih
      cases event with
      | arrive op =>
          cases hstep
          refine ⟨hI, ?_⟩
          intro request hrequest
          rcases List.mem_append.mp hrequest with hpending | hnew
          · exact hsafe request hpending
          · rw [List.mem_singleton.mp hnew]
            exact hprogram op pool.store hI
      | serve index env =>
          obtain ⟨hadmits, c, hserves⟩ := hstep
          cases hserves with
          | mk hnext =>
              obtain ⟨hallowed, hrest⟩ := (hsafe _ (List.mem_of_getElem? hnext)).of_call
                (hrefl pool.store hI)
              obtain ⟨hI', hrely⟩ := hserve pool.store c env hI hallowed hadmits
              refine ⟨hI', ?_⟩
              intro request hrequest
              rcases List.mem_or_eq_of_mem_set hrequest with hpending | hserved
              · exact (hsafe request hpending).stable htrans (fun _ _ _ _ _ => trivial) hrely
              · rw [hserved]
                exact hrest env hadmits

/-- The call a safe request makes next is allowed. -/
theorem Pool.allowed_of_safe (hrefl : ∀ s, rely s s) {pool : Pool σ Call Reply ε α}
    (hsafe : ∀ request ∈ pool.requests,
      request.Safe serve admits rely allowed (fun _ _ => True) pool.store)
    {index : Nat} {c : Call} (hcall : pool.nextCall? index = some c) : allowed pool.store c := by
  cases hrequest : pool.requests[index]? with
  | none => simp [Pool.nextCall?, hrequest] at hcall
  | some request =>
      cases request with
      | done outcome => simp [Pool.nextCall?, hrequest] at hcall
      | call own next =>
          simp only [Pool.nextCall?, hrequest, Option.some.injEq] at hcall
          subst hcall
          exact ((hsafe _ (List.mem_of_getElem? hrequest)).of_call (hrefl pool.store)).1

end Concurrent

end BusinessAssistant.Foundation
