import SentryWms.Relational.Run
import Mathlib.Data.List.Nodup
import Mathlib.Logic.Function.Basic

/-!
# Requests that carry an idempotency key

A request looks its key up, prepares, claims the key by inserting a sentinel row, and
completes: its effects, its answer and the sentinel commit together.  The unique index
lets one open transaction hold a key, and the next claim waits for it to end.  A request
that finds a record under its key is answered from the record when the record accepts
it, and is refused otherwise.
-/

namespace Relational.Sentinel

/-- How requests use the world.  A completed request stores one record, under its own
key. -/
structure Protocol (World Request Plan Key Record Answer Refusal : Type*)
    [DecidableEq Key] where
  key : Request → Key
  lookup : World → Key → Option Record
  accepts : Request → Record → Bool
  answer : Record → Option Answer
  record : Request → Answer → Record
  busy : Request → Refusal
  prepare : Request → World → Except Refusal Plan
  complete : Request → Plan → World → Except Refusal (World × Answer)
  lookup_complete : ∀ {request plan world next answer},
    lookup world (key request) = none →
      complete request plan world = .ok (next, answer) → ∀ other,
        lookup next other =
          if other = key request then some (record request answer)
          else lookup world other

inductive Stage (Plan : Type*)
  | waiting
  | missed
  | planned (plan : Plan)
  | holding (plan : Plan)
  | closed
  deriving DecidableEq, Repr

inductive Reply (Answer Refusal : Type*)
  | replayed (answer : Answer)
  | conflict
  | failed (refusal : Refusal)
  | completed (answer : Answer)
  deriving DecidableEq, Repr

/-- The committed world, the requests in hand by ticket, who holds a key, and the
replies, oldest first. -/
structure Service (World Plan Key Answer Refusal : Type*) where
  world : World
  stage : ℕ → Stage Plan
  holder : Key → Option ℕ
  replies : List (ℕ × Reply Answer Refusal)

/-- One statement of a request.  A request that times out is told to come back, one
that crashes is not answered, and both are rolled back. -/
inductive Step
  | probe (ticket : ℕ)
  | prepare (ticket : ℕ)
  | claim (ticket : ℕ)
  | complete (ticket : ℕ)
  | timeOut (ticket : ℕ)
  | crash (ticket : ℕ)
  deriving DecidableEq, Repr

variable {World Request Plan Key Record Answer Refusal : Type*}

def moveTo (ticket : ℕ) (stage : Stage Plan) (state : Service World Plan Key Answer Refusal) :
    Service World Plan Key Answer Refusal :=
  { state with stage := Function.update state.stage ticket stage }

/-- The request ends, with a reply or without one, and lets go of its key. -/
def leave (ticket : ℕ) (reply : Option (Reply Answer Refusal))
    (state : Service World Plan Key Answer Refusal) :
    Service World Plan Key Answer Refusal where
  world := state.world
  stage := Function.update state.stage ticket .closed
  holder := fun key => if state.holder key = some ticket then none else state.holder key
  replies := state.replies ++ (reply.map fun reply => (ticket, reply)).toList

/-- Nobody has sent anything. -/
def opened (world : World) : Service World Plan Key Answer Refusal where
  world := world
  stage := fun _ => .waiting
  holder := fun _ => none
  replies := []

variable {ticket : ℕ} {step : Step}

section Leaving

variable {state : Service World Plan Key Answer Refusal}

theorem mem_replies_leave {reply : Option (Reply Answer Refusal)}
    {entry : ℕ × Reply Answer Refusal} :
    entry ∈ (leave ticket reply state).replies ↔
      entry ∈ state.replies ∨ ∃ given ∈ reply, entry = (ticket, given) := by
  change entry ∈ state.replies ++ _ ↔ _
  rw [List.mem_append, Option.mem_toList]
  cases reply with
  | none => simp
  | some given => simp [eq_comm]

theorem stage_leave (ticket other : ℕ) (reply : Option (Reply Answer Refusal)) :
    (leave ticket reply state).stage other =
      if other = ticket then .closed else state.stage other := by
  change Function.update state.stage ticket .closed other = _
  by_cases hother : other = ticket
  · rw [hother, Function.update_self, if_pos rfl]
  · rw [Function.update_of_ne hother, if_neg hother]

theorem stage_moveTo (ticket other : ℕ) (stage : Stage Plan) :
    (moveTo ticket stage state).stage other =
      if other = ticket then stage else state.stage other := by
  change Function.update state.stage ticket stage other = _
  by_cases hother : other = ticket
  · rw [hother, Function.update_self, if_pos rfl]
  · rw [Function.update_of_ne hother, if_neg hother]

theorem holder_leave {other : ℕ} {reply : Option (Reply Answer Refusal)} {key : Key} :
    (leave ticket reply state).holder key = some other ↔
      state.holder key = some other ∧ other ≠ ticket := by
  change (if state.holder key = some ticket then none else state.holder key) = _ ↔ _
  by_cases hholder : state.holder key = some ticket
  · rw [if_pos hholder, hholder]
    simp [eq_comm]
  · rw [if_neg hholder]
    constructor
    · intro hother
      exact ⟨hother, fun heq => hholder (heq ▸ hother)⟩
    · exact fun hboth => hboth.1

end Leaving

variable [DecidableEq Key] (protocol : Protocol World Request Plan Key Record Answer Refusal)

/-- The reply to a request that finds a record under its key; there is none while an
accepting record has no answer. -/
def recollect (request : Request) (record : Record) : Option (Reply Answer Refusal) :=
  if protocol.accepts request record then (protocol.answer record).map .replayed
  else some .conflict

/-- The reply to a request that looks its key up. -/
def lookedUp (request : Request) (world : World) : Option (Reply Answer Refusal) :=
  (protocol.lookup world (protocol.key request)).bind (recollect protocol request)

variable (requests : ℕ → Request)

def serve (state : Service World Plan Key Answer Refusal) :
    Step → Service World Plan Key Answer Refusal
  | .probe ticket =>
      match state.stage ticket with
      | .waiting =>
          match lookedUp protocol (requests ticket) state.world with
          | some reply => leave ticket (some reply) state
          | none => moveTo ticket .missed state
      | _ => state
  | .prepare ticket =>
      match state.stage ticket with
      | .missed =>
          match protocol.prepare (requests ticket) state.world with
          | .ok plan => moveTo ticket (.planned plan) state
          | .error refusal => leave ticket (some (.failed refusal)) state
      | _ => state
  | .claim ticket =>
      match state.stage ticket with
      | .planned plan =>
          match state.holder (protocol.key (requests ticket)) with
          | some _ => state
          | none =>
              match protocol.lookup state.world (protocol.key (requests ticket)) with
              | some record =>
                  leave ticket
                    (some ((recollect protocol (requests ticket) record).getD
                      (.failed (protocol.busy (requests ticket))))) state
              | none =>
                  { moveTo ticket (.holding plan) state with
                    holder := Function.update state.holder
                      (protocol.key (requests ticket)) (some ticket) }
      | _ => state
  | .complete ticket =>
      match state.stage ticket with
      | .holding plan =>
          match protocol.complete (requests ticket) plan state.world with
          | .ok (next, answer) =>
              leave ticket (some (.completed answer)) { state with world := next }
          | .error refusal => leave ticket (some (.failed refusal)) state
      | _ => state
  | .timeOut ticket =>
      match state.stage ticket with
      | .waiting => state
      | .closed => state
      | _ => leave ticket (some (.failed (protocol.busy (requests ticket)))) state
  | .crash ticket => leave ticket none state

/-! ## What a step does -/

/-- The request that looks its key up at a step: at its first look, and when its claim
does not have to wait. -/
def looksUp (state : Service World Plan Key Answer Refusal) : Step → Option ℕ
  | .probe ticket =>
      match state.stage ticket with
      | .waiting => some ticket
      | _ => none
  | .claim ticket =>
      match state.stage ticket, state.holder (protocol.key (requests ticket)) with
      | .planned _, none => some ticket
      | _, _ => none
  | _ => none

/-- The outcomes of a step. -/
inductive Served (state : Service World Plan Key Answer Refusal) (step : Step) :
    Service World Plan Key Answer Refusal → Prop
  | idle : Served state step state
  | missed (ticket : ℕ) (hwaiting : state.stage ticket = .waiting)
      (hlookup : lookedUp protocol (requests ticket) state.world = none) :
      Served state step (moveTo ticket .missed state)
  | planned (ticket : ℕ) (plan : Plan) (hmissed : state.stage ticket = .missed)
      (hprepare : protocol.prepare (requests ticket) state.world = .ok plan) :
      Served state step (moveTo ticket (.planned plan) state)
  | held (ticket : ℕ) (plan : Plan) (hplanned : state.stage ticket = .planned plan)
      (hfree : state.holder (protocol.key (requests ticket)) = none)
      (hlookup : protocol.lookup state.world (protocol.key (requests ticket)) = none) :
      Served state step
        { moveTo ticket (.holding plan) state with
          holder := Function.update state.holder (protocol.key (requests ticket)) (some ticket) }
  | recalled (ticket : ℕ) (reply : Reply Answer Refusal)
      (hlooks : looksUp protocol requests state step = some ticket)
      (hopen : state.stage ticket ≠ .closed)
      (hlookup : lookedUp protocol (requests ticket) state.world = some reply) :
      Served state step (leave ticket (some reply) state)
  | completed (ticket : ℕ) (plan : Plan) (next : World) (answer : Answer)
      (hholding : state.stage ticket = .holding plan)
      (hcomplete : protocol.complete (requests ticket) plan state.world = .ok (next, answer)) :
      Served state step (leave ticket (some (.completed answer)) { state with world := next })
  | failed (ticket : ℕ) (refusal : Refusal) (hstarted : state.stage ticket ≠ .waiting)
      (hopen : state.stage ticket ≠ .closed) :
      Served state step (leave ticket (some (.failed refusal)) state)
  | crashed (ticket : ℕ) : Served state step (leave ticket none state)

theorem served_probe (state : Service World Plan Key Answer Refusal) (ticket : ℕ) :
    Served protocol requests state (.probe ticket)
      (serve protocol requests state (.probe ticket)) := by
  rw [serve]
  cases hstage : state.stage ticket with
  | waiting =>
      dsimp only
      cases hlookup : lookedUp protocol (requests ticket) state.world with
      | some reply =>
          apply Served.recalled ticket reply _ _ hlookup
          · simp only [looksUp, hstage]
          · rw [hstage]
            simp
      | none => exact .missed ticket hstage hlookup
  | _ => exact .idle

theorem served_claim (state : Service World Plan Key Answer Refusal) (ticket : ℕ) :
    Served protocol requests state (.claim ticket)
      (serve protocol requests state (.claim ticket)) := by
  rw [serve]
  cases hstage : state.stage ticket with
  | planned plan =>
      dsimp only
      cases hholder : state.holder (protocol.key (requests ticket)) with
      | some other => exact .idle
      | none =>
          dsimp only
          cases hlookup : protocol.lookup state.world
              (protocol.key (requests ticket)) with
          | none => exact .held ticket plan hstage hholder hlookup
          | some record =>
              dsimp only
              cases hrecall : recollect protocol (requests ticket) record with
              | none =>
                  exact .failed ticket _ (by rw [hstage]; simp) (by rw [hstage]; simp)
              | some reply =>
                  apply Served.recalled ticket reply
                  · simp only [looksUp, hstage, hholder]
                  · rw [hstage]
                    simp
                  · rw [lookedUp, hlookup, Option.bind_some, hrecall]
  | _ => exact .idle

theorem served_serve (state : Service World Plan Key Answer Refusal) (step : Step) :
    Served protocol requests state step (serve protocol requests state step) := by
  cases step with
  | probe ticket => exact served_probe protocol requests state ticket
  | prepare ticket =>
      rw [serve]
      cases hstage : state.stage ticket with
      | missed =>
          dsimp only
          cases hprepare : protocol.prepare (requests ticket) state.world with
          | ok plan => exact .planned ticket plan hstage hprepare
          | error refusal =>
              exact .failed ticket refusal (by rw [hstage]; simp) (by rw [hstage]; simp)
      | _ => exact .idle
  | claim ticket => exact served_claim protocol requests state ticket
  | complete ticket =>
      rw [serve]
      cases hstage : state.stage ticket with
      | holding plan =>
          dsimp only
          cases hcomplete : protocol.complete (requests ticket) plan state.world with
          | ok result => exact .completed ticket plan result.1 result.2 hstage hcomplete
          | error refusal =>
              exact .failed ticket refusal (by rw [hstage]; simp) (by rw [hstage]; simp)
      | _ => exact .idle
  | timeOut ticket =>
      rw [serve]
      cases hstage : state.stage ticket with
      | waiting | closed => exact .idle
      | _ => exact .failed ticket _ (by rw [hstage]; simp) (by rw [hstage]; simp)
  | crash ticket => exact .crashed ticket

/-! ## Soundness -/

/-- A reply is the one the record under the request's key gives; a completed request
has stored it. -/
def Honest (request : Request) (world : World) : Reply Answer Refusal → Prop
  | .failed _ => True
  | .completed answer => protocol.lookup world (protocol.key request) =
      some (protocol.record request answer)
  | reply => lookedUp protocol request world = some reply

/-- Keys are held by the requests that claimed them and are not stored yet; a stored key
is that of the one request that completed under it; and every reply is honest. -/
structure Sound (initial : World) (state : Service World Plan Key Answer Refusal) :
    Prop where
  held : ∀ key ticket, state.holder key = some ticket →
    protocol.key (requests ticket) = key ∧ ∃ plan, state.stage ticket = .holding plan
  holding : ∀ ticket plan, state.stage ticket = .holding plan →
    state.holder (protocol.key (requests ticket)) = some ticket
  free : ∀ key ticket, state.holder key = some ticket → protocol.lookup state.world key = none
  kept : ∀ key record, protocol.lookup initial key = some record →
    protocol.lookup state.world key = some record
  stored : ∀ key record, protocol.lookup state.world key = some record →
    protocol.lookup initial key = some record ∨ ∃ ticket answer,
      (ticket, .completed answer) ∈ state.replies ∧ protocol.key (requests ticket) = key ∧
        protocol.record (requests ticket) answer = record
  honest : ∀ ticket reply, (ticket, reply) ∈ state.replies →
    Honest protocol (requests ticket) state.world reply
  fresh : ∀ ticket answer, (ticket, .completed answer) ∈ state.replies →
    protocol.lookup initial (protocol.key (requests ticket)) = none
  once : ∀ left right leftAnswer rightAnswer,
    (left, .completed leftAnswer) ∈ state.replies →
      (right, .completed rightAnswer) ∈ state.replies →
        protocol.key (requests left) = protocol.key (requests right) → left = right
  closed : ∀ ticket reply, (ticket, reply) ∈ state.replies → state.stage ticket = .closed
  single : (state.replies.map Prod.fst).Nodup

variable {protocol requests} {initial : World} {state : Service World Plan Key Answer Refusal}

theorem sound_opened (initial : World) : Sound protocol requests initial (opened initial) := by
  constructor <;> simp [opened]

theorem Sound.completed_lookup (hsound : Sound protocol requests initial state)
    {answer : Answer} (hreply : (ticket, .completed answer) ∈ state.replies) :
    protocol.lookup state.world (protocol.key (requests ticket)) =
      some (protocol.record (requests ticket) answer) :=
  hsound.honest ticket _ hreply

/-- A request that holds no key and will hold none moves on. -/
theorem Sound.move (hsound : Sound protocol requests initial state) {stage : Stage Plan}
    (hbefore : ∀ plan, state.stage ticket ≠ .holding plan)
    (hopen : state.stage ticket ≠ .closed) (hafter : ∀ plan, stage ≠ .holding plan) :
    Sound protocol requests initial (moveTo ticket stage state) := by
  refine ⟨?_, ?_, hsound.free, hsound.kept, hsound.stored, hsound.honest,
    hsound.fresh, hsound.once, ?_, hsound.single⟩
  · intro key other hholder
    obtain ⟨hkey, plan, hplan⟩ := hsound.held key other hholder
    have hne : other ≠ ticket := fun heq => hbefore plan (heq ▸ hplan)
    exact ⟨hkey, plan, by rw [stage_moveTo, if_neg hne]; exact hplan⟩
  · intro other plan hplan
    rw [stage_moveTo] at hplan
    by_cases hother : other = ticket
    · rw [if_pos hother] at hplan
      exact absurd hplan (hafter plan)
    · rw [if_neg hother] at hplan
      exact hsound.holding other plan hplan
  · intro other reply hreply
    have hover := hsound.closed other reply hreply
    have hne : other ≠ ticket := fun heq => hopen (heq ▸ hover)
    rw [stage_moveTo, if_neg hne]
    exact hover

theorem Sound.hold (hsound : Sound protocol requests initial state) {plan : Plan}
    (hplanned : state.stage ticket = .planned plan)
    (hfree : state.holder (protocol.key (requests ticket)) = none)
    (hlookup : protocol.lookup state.world (protocol.key (requests ticket)) = none) :
    Sound protocol requests initial
      { moveTo ticket (.holding plan) state with
        holder := Function.update state.holder (protocol.key (requests ticket))
          (some ticket) } := by
  refine ⟨?_, ?_, ?_, hsound.kept, hsound.stored, hsound.honest, hsound.fresh,
    hsound.once, ?_, hsound.single⟩
  · intro key other hholder
    change Function.update state.holder _ _ key = _ at hholder
    change _ ∧ ∃ plan, (moveTo ticket _ state).stage other = _
    by_cases hkey : key = protocol.key (requests ticket)
    · subst hkey
      rw [Function.update_self] at hholder
      rw [← Option.some.inj hholder]
      exact ⟨rfl, plan, by rw [stage_moveTo, if_pos rfl]⟩
    · rw [Function.update_of_ne hkey] at hholder
      obtain ⟨hother, held, hheld⟩ := hsound.held key other hholder
      have hne : other ≠ ticket := fun heq => hkey (heq ▸ hother.symm)
      exact ⟨hother, held, by rw [stage_moveTo, if_neg hne]; exact hheld⟩
  · intro other held hheld
    change (moveTo ticket _ state).stage other = _ at hheld
    change Function.update state.holder _ _ _ = _
    rw [stage_moveTo] at hheld
    by_cases hother : other = ticket
    · subst hother
      exact Function.update_self ..
    · rw [if_neg hother] at hheld
      have hholder := hsound.holding other held hheld
      have hne : protocol.key (requests other) ≠ protocol.key (requests ticket) := by
        intro heq
        rw [heq, hfree] at hholder
        cases hholder
      rw [Function.update_of_ne hne]
      exact hholder
  · intro key other hholder
    change Function.update state.holder _ _ key = _ at hholder
    by_cases hkey : key = protocol.key (requests ticket)
    · rw [hkey]
      exact hlookup
    · rw [Function.update_of_ne hkey] at hholder
      exact hsound.free key other hholder
  · intro other reply hreply
    have hover := hsound.closed other reply hreply
    have hne : other ≠ ticket := by
      rintro rfl
      rw [hplanned] at hover
      cases hover
    change (moveTo ticket _ state).stage other = _
    rw [stage_moveTo, if_neg hne]
    exact hover

/-- What a request that ends leaves in the world: records are kept, a new one is that of
a completed request, and the reply is honest. -/
structure Ends (protocol : Protocol World Request Plan Key Record Answer Refusal)
    (request : Request) (world next : World) (reply : Option (Reply Answer Refusal)) :
    Prop where
  kept : ∀ key record, protocol.lookup world key = some record →
    protocol.lookup next key = some record
  added : ∀ key record, protocol.lookup next key = some record →
    protocol.lookup world key = some record ∨ ∃ answer,
      reply = some (.completed answer) ∧ protocol.key request = key ∧
        protocol.record request answer = record
  honest : ∀ given, reply = some given → Honest protocol request next given

theorem lookedUp_mono {request : Request} {world next : World} {reply : Reply Answer Refusal}
    (hkept : ∀ key record, protocol.lookup world key = some record →
      protocol.lookup next key = some record)
    (hlookup : lookedUp protocol request world = some reply) :
    lookedUp protocol request next = some reply := by
  obtain ⟨record, hrecord, hrecall⟩ := Option.bind_eq_some_iff.mp hlookup
  rw [lookedUp, hkept _ record hrecord, Option.bind_some, hrecall]

theorem Honest.mono {request : Request} {world next : World}
    {reply : Reply Answer Refusal} (hhonest : Honest protocol request world reply)
    (hkept : ∀ key record, protocol.lookup world key = some record →
      protocol.lookup next key = some record) :
    Honest protocol request next reply := by
  cases reply with
  | replayed | conflict => exact lookedUp_mono hkept hhonest
  | failed refusal => trivial
  | completed answer => exact hkept _ _ hhonest

/-- Ending without completing changes nothing. -/
theorem Ends.same {request : Request} {world : World} {reply : Option (Reply Answer Refusal)}
    (hhonest : ∀ given, reply = some given → Honest protocol request world given) :
    Ends protocol request world world reply where
  kept := fun _ _ hlookup => hlookup
  added := fun _ _ hlookup => Or.inl hlookup
  honest := hhonest

theorem Ends.completed {request : Request} {plan : Plan} {world next : World}
    {answer : Answer} (hfree : protocol.lookup world (protocol.key request) = none)
    (hcomplete : protocol.complete request plan world = .ok (next, answer)) :
    Ends protocol request world next
      (some (.completed answer) : Option (Reply Answer Refusal)) where
  kept := by
    intro key record hlookup
    have hne : key ≠ protocol.key request := by
      rintro rfl
      rw [hfree] at hlookup
      cases hlookup
    rw [protocol.lookup_complete hfree hcomplete, if_neg hne]
    exact hlookup
  added := by
    intro key record hlookup
    rw [protocol.lookup_complete hfree hcomplete] at hlookup
    by_cases hkey : key = protocol.key request
    · rw [if_pos hkey] at hlookup
      exact Or.inr ⟨answer, rfl, hkey.symm, Option.some.inj hlookup⟩
    · rw [if_neg hkey] at hlookup
      exact Or.inl hlookup
  honest := by
    intro given hgiven
    cases hgiven
    change protocol.lookup next (protocol.key request) = _
    rw [protocol.lookup_complete hfree hcomplete, if_pos rfl]

/-- A request ends and lets go of its key. -/
theorem Sound.leave (hsound : Sound protocol requests initial state)
    {reply : Option (Reply Answer Refusal)} {next : World}
    (hends : Ends protocol (requests ticket) state.world next reply)
    (hholder : ∀ answer, reply = some (.completed answer) →
      state.holder (protocol.key (requests ticket)) = some ticket)
    (hopen : reply = none ∨ state.stage ticket ≠ .closed) :
    Sound protocol requests initial (leave ticket reply { state with world := next }) := by
  -- A completed request held its key, so nobody completed under it before.
  have hfirst : ∀ answer, reply = some (.completed answer) →
      ∀ other given, (other, .completed given) ∈ state.replies →
        protocol.key (requests other) ≠ protocol.key (requests ticket) := by
    intro answer hreply other given hgiven hkey
    have hlookup := hsound.completed_lookup hgiven
    rw [hkey, hsound.free _ ticket (hholder answer hreply)] at hlookup
    cases hlookup
  refine ⟨?_, ?_, ?_, ?_, ?_, ?_, ?_, ?_, ?_, ?_⟩
  · intro key other hother
    obtain ⟨hbefore, hne⟩ := holder_leave.mp hother
    obtain ⟨hkey, plan, hplan⟩ := hsound.held key other hbefore
    exact ⟨hkey, plan, by rw [stage_leave, if_neg hne]; exact hplan⟩
  · intro other plan hplan
    rw [stage_leave] at hplan
    by_cases hother : other = ticket
    · rw [if_pos hother] at hplan
      cases hplan
    · rw [if_neg hother] at hplan
      exact holder_leave.mpr ⟨hsound.holding other plan hplan, hother⟩
  · intro key other hother
    obtain ⟨hbefore, hne⟩ := holder_leave.mp hother
    change protocol.lookup next key = none
    cases hlookup : protocol.lookup next key with
    | none => rfl
    | some record =>
        rcases hends.added key record hlookup with hold | ⟨answer, hreply, rfl, -⟩
        · rw [hsound.free key other hbefore] at hold
          cases hold
        · rw [hholder answer hreply] at hbefore
          exact absurd (Option.some.inj hbefore).symm hne
  · intro key record hlookup
    exact hends.kept key record (hsound.kept key record hlookup)
  · intro key record hlookup
    rcases hends.added key record hlookup with hold | ⟨answer, hreply, hkey, hrecord⟩
    · refine (hsound.stored key record hold).imp_right ?_
      rintro ⟨other, answer, hmem, hkey, hrecord⟩
      exact ⟨other, answer, mem_replies_leave.mpr (Or.inl hmem), hkey, hrecord⟩
    · exact Or.inr ⟨ticket, answer, mem_replies_leave.mpr (Or.inr ⟨_, hreply, rfl⟩), hkey, hrecord⟩
  · intro other given hmem
    rcases mem_replies_leave.mp hmem with hmem | ⟨given, hgiven, heq⟩
    · exact (hsound.honest other given hmem).mono hends.kept
    · obtain ⟨rfl, rfl⟩ := Prod.mk.inj heq
      exact hends.honest _ hgiven
  · intro other answer hmem
    rcases mem_replies_leave.mp hmem with hmem | ⟨given, hgiven, heq⟩
    · exact hsound.fresh other answer hmem
    · obtain ⟨rfl, rfl⟩ := Prod.mk.inj heq
      have hfree := hsound.free _ other (hholder answer hgiven)
      cases hinitial : protocol.lookup initial (protocol.key (requests other)) with
      | none => rfl
      | some record =>
          rw [hsound.kept _ record hinitial] at hfree
          cases hfree
  · intro left right leftAnswer rightAnswer hleft hright hkey
    rcases mem_replies_leave.mp hleft with hleftOld | ⟨given, hgiven, heq⟩
    · rcases mem_replies_leave.mp hright with hrightOld | ⟨given, hgiven, heq⟩
      · exact hsound.once left right leftAnswer rightAnswer hleftOld hrightOld hkey
      · obtain ⟨rfl, rfl⟩ := Prod.mk.inj heq
        exact absurd hkey (hfirst _ hgiven left _ hleftOld)
    · obtain ⟨rfl, rfl⟩ := Prod.mk.inj heq
      rcases mem_replies_leave.mp hright with hrightOld | ⟨other, -, heq⟩
      · exact absurd hkey.symm (hfirst _ hgiven right _ hrightOld)
      · exact (Prod.mk.inj heq).1.symm
  · intro other given hmem
    rw [stage_leave]
    by_cases hother : other = ticket
    · rw [if_pos hother]
    · rw [if_neg hother]
      rcases mem_replies_leave.mp hmem with hmem | ⟨given, -, heq⟩
      · exact hsound.closed other _ hmem
      · exact absurd (Prod.mk.inj heq).1 hother
  · change ((state.replies ++ _).map Prod.fst).Nodup
    cases hreply : reply with
    | none => simpa using hsound.single
    | some given =>
        have hover := hopen.resolve_left (by rw [hreply]; exact Option.some_ne_none _)
        rw [List.map_append, Option.map_some, Option.toList_some, List.map_singleton]
        apply List.Nodup.append hsound.single (List.nodup_singleton _)
        intro other hmem hsame
        rw [List.mem_singleton] at hsame
        obtain ⟨entry, hentry, hfst⟩ := List.mem_map.mp hmem
        have hentryOver := hsound.closed entry.1 entry.2 hentry
        rw [hfst, hsame] at hentryOver
        exact hover hentryOver

theorem honest_of_lookedUp {request : Request} {world : World} {reply : Reply Answer Refusal}
    (hlookup : lookedUp protocol request world = some reply) :
    Honest protocol request world reply ∧ ∀ answer, reply ≠ .completed answer := by
  obtain ⟨record, -, hrecall⟩ := Option.bind_eq_some_iff.mp hlookup
  unfold recollect at hrecall
  split at hrecall
  · obtain ⟨answer, -, rfl⟩ := Option.map_eq_some_iff.mp hrecall
    exact ⟨hlookup, by simp⟩
  · cases hrecall
    exact ⟨hlookup, by simp⟩

theorem Sound.served (hsound : Sound protocol requests initial state)
    {next : Service World Plan Key Answer Refusal}
    (hserved : Served protocol requests state step next) :
    Sound protocol requests initial next := by
  cases hserved with
  | idle => exact hsound
  | missed ticket hwaiting hlookup =>
      apply hsound.move <;> simp [hwaiting]
  | planned ticket plan hmissed hprepare =>
      apply hsound.move <;> simp [hmissed]
  | held ticket plan hplanned hfree hlookup =>
      exact hsound.hold hplanned hfree hlookup
  | recalled ticket reply hlooks hopen hlookup =>
      obtain ⟨hhonest, hnot⟩ := honest_of_lookedUp hlookup
      apply hsound.leave
      · apply Ends.same
        rintro given ⟨⟩
        exact hhonest
      · rintro answer ⟨⟩
        exact absurd rfl (hnot answer)
      · exact Or.inr hopen
  | completed ticket plan world answer hholding hcomplete =>
      have hholder := hsound.holding ticket plan hholding
      apply hsound.leave
      · exact .completed (hsound.free _ ticket hholder) hcomplete
      · exact fun _ _ => hholder
      · exact Or.inr (by rw [hholding]; simp)
  | failed ticket refusal hstarted hopen =>
      apply hsound.leave
      · apply Ends.same
        rintro given ⟨⟩
        trivial
      · rintro answer ⟨⟩
      · exact Or.inr hopen
  | crashed ticket =>
      apply hsound.leave
      · apply Ends.same
        rintro given ⟨⟩
      · rintro answer ⟨⟩
      · exact Or.inl rfl

theorem Sound.serve (hsound : Sound protocol requests initial state) (step : Step) :
    Sound protocol requests initial (Sentinel.serve protocol requests state step) :=
  hsound.served (served_serve protocol requests state step)

/-- What every step preserves, a run preserves. -/
theorem serve_induct (inv : Service World Plan Key Answer Refusal → Prop)
    (hstep : ∀ state step, inv state → inv (serve protocol requests state step))
    (hinit : inv state) (steps : List Step) :
    inv (run (serve protocol requests) state steps) :=
  run_invariant (fun state step hinv _ => hstep state step hinv) hinit
    (along_forall (fun _ _ => trivial) state steps)

theorem Sound.run (hsound : Sound protocol requests initial state) (steps : List Step) :
    Sound protocol requests initial
      (Relational.run (Sentinel.serve protocol requests) state steps) :=
  serve_induct _ (fun _ step hsound => hsound.serve step) hsound steps

theorem sound_run (initial : World) (steps : List Step) :
    Sound protocol requests initial
      (run (serve protocol requests) (opened initial) steps) :=
  (sound_opened initial).run steps

/-! ## Replies -/

theorem Served.mem_replies {next : Service World Plan Key Answer Refusal}
    (hserved : Served protocol requests state step next)
    {entry : ℕ × Reply Answer Refusal} (hentry : entry ∈ state.replies) :
    entry ∈ next.replies := by
  cases hserved with
  | idle | missed | planned | held => exact hentry
  | recalled | completed | failed | crashed => exact mem_replies_leave.mpr (Or.inl hentry)

theorem mem_replies_run {entry : ℕ × Reply Answer Refusal}
    (hentry : entry ∈ state.replies) (steps : List Step) :
    entry ∈ (run (serve protocol requests) state steps).replies :=
  serve_induct (fun state => entry ∈ state.replies)
    (fun state step hentry =>
      (served_serve protocol requests state step).mem_replies hentry) hentry steps

/-- A request that finds a record which answers it is answered at once. -/
theorem answered_of_looksUp {reply : Reply Answer Refusal}
    (hlooks : looksUp protocol requests state step = some ticket)
    (hlookup : lookedUp protocol (requests ticket) state.world = some reply) :
    (ticket, reply) ∈ (serve protocol requests state step).replies := by
  obtain ⟨record, hrecord, hrecall⟩ := Option.bind_eq_some_iff.mp hlookup
  cases step with
  | probe other =>
      rw [serve]
      cases hstage : state.stage other with
      | waiting =>
          simp only [looksUp, hstage, Option.some.injEq] at hlooks
          subst hlooks
          dsimp only
          rw [hlookup]
          exact mem_replies_leave.mpr (Or.inr ⟨reply, rfl, rfl⟩)
      | _ => simp [looksUp, hstage] at hlooks
  | claim other =>
      rw [serve]
      cases hstage : state.stage other with
      | planned plan =>
          cases hholder : state.holder (protocol.key (requests other)) with
          | some holder => simp [looksUp, hstage, hholder] at hlooks
          | none =>
              simp only [looksUp, hstage, hholder, Option.some.injEq] at hlooks
              subst hlooks
              dsimp only
              rw [hrecord]
              exact mem_replies_leave.mpr (Or.inr ⟨reply, by simp [hrecall], rfl⟩)
      | _ => simp [looksUp, hstage] at hlooks
  | _ => cases hlooks

/-- A replay is given at a step at which the request looks its key up. -/
theorem Served.replayed {next : Service World Plan Key Answer Refusal}
    (hserved : Served protocol requests state step next) {answer : Answer}
    (hreply : (ticket, .replayed answer) ∈ next.replies) :
    (ticket, .replayed answer) ∈ state.replies ∨
      (looksUp protocol requests state step = some ticket ∧
        lookedUp protocol (requests ticket) state.world =
          some (.replayed answer : Reply Answer Refusal)) := by
  cases hserved with
  | idle | missed | planned | held => exact Or.inl hreply
  | recalled other given hlooks hopen hlookup =>
      rcases mem_replies_leave.mp hreply with hreply | ⟨_, ⟨⟩, heq⟩
      · exact Or.inl hreply
      · obtain ⟨rfl, rfl⟩ := Prod.mk.inj heq
        exact Or.inr ⟨hlooks, hlookup⟩
  | completed | failed =>
      rcases mem_replies_leave.mp hreply with hreply | ⟨_, ⟨⟩, heq⟩
      · exact Or.inl hreply
      · cases heq
  | crashed =>
      rcases mem_replies_leave.mp hreply with hreply | ⟨_, ⟨⟩, -⟩
      exact Or.inl hreply

/-! ## Requests that come after the commit -/

/-- What a request may be told once its key is stored: what the record gives, or a
failure of its own if it had looked the key up before. -/
structure Told (protocol : Protocol World Request Plan Key Record Answer Refusal)
    (requests : ℕ → Request) (ticket : ℕ) (reply : Reply Answer Refusal) (started : Prop)
    (state : Service World Plan Key Answer Refusal) : Prop where
  recorded : lookedUp protocol (requests ticket) state.world = some reply
  stage : ¬ started → state.stage ticket = .waiting ∨ state.stage ticket = .closed
  reply : ∀ given, (ticket, given) ∈ state.replies →
    given = reply ∨ (started ∧ ∃ refusal, given = .failed refusal)

variable {ticket : ℕ} {reply : Reply Answer Refusal} {started : Prop}

theorem Told.stored (htold : Told protocol requests ticket reply started state) :
    protocol.lookup state.world (protocol.key (requests ticket)) ≠ none := by
  intro hnone
  have hrecorded := htold.recorded
  rw [lookedUp, hnone, Option.bind_none] at hrecorded
  cases hrecorded

/-- Another request moves on. -/
theorem Told.elsewhere (htold : Told protocol requests ticket reply started state)
    {next : Service World Plan Key Answer Refusal} (hworld : next.world = state.world)
    (hstage : next.stage ticket = state.stage ticket)
    (hreplies : next.replies = state.replies) :
    Told protocol requests ticket reply started next where
  recorded := by
    rw [hworld]
    exact htold.recorded
  stage := by
    rw [hstage]
    exact htold.stage
  reply := by
    rw [hreplies]
    exact htold.reply

/-- The request moves on, past its first look. -/
theorem Told.move (htold : Told protocol requests ticket reply started state)
    {stage : Stage Plan} (hstarted : state.stage ticket ≠ .waiting)
    (hopen : state.stage ticket ≠ .closed) :
    Told protocol requests ticket reply started (moveTo ticket stage state) where
  recorded := htold.recorded
  stage := fun hnot =>
    ((htold.stage hnot).elim (fun h => hstarted h) fun h => hopen h).elim
  reply := htold.reply

/-- Any request leaves, the told one with what it may be told. -/
theorem Told.leave (htold : Told protocol requests ticket reply started state)
    {other : ℕ} {last : Option (Reply Answer Refusal)} {next : World}
    (hkept : ∀ key record, protocol.lookup state.world key = some record →
      protocol.lookup next key = some record)
    (hlast : other = ticket → ∀ given, last = some given →
      given = reply ∨ (started ∧ ∃ refusal, given = .failed refusal)) :
    Told protocol requests ticket reply started
      (Sentinel.leave other last { state with world := next }) where
  recorded := lookedUp_mono hkept htold.recorded
  stage := by
    intro hnot
    rw [stage_leave]
    by_cases hother : ticket = other
    · exact Or.inr (if_pos hother)
    · rw [if_neg hother]
      exact htold.stage hnot
  reply := by
    intro given hgiven
    rcases mem_replies_leave.mp hgiven with hgiven | ⟨_, hgiven, heq⟩
    · exact htold.reply given hgiven
    · obtain ⟨rfl, rfl⟩ := Prod.mk.inj heq
      exact hlast rfl given hgiven

theorem Told.served (htold : Told protocol requests ticket reply started state)
    (hsound : Sound protocol requests initial state)
    {next : Service World Plan Key Answer Refusal}
    (hserved : Served protocol requests state step next) :
    Told protocol requests ticket reply started next := by
  have hsame : ∀ key record, protocol.lookup state.world key = some record →
      protocol.lookup state.world key = some record := fun _ _ hlookup => hlookup
  cases hserved with
  | idle => exact htold
  | missed other hwaiting hlookup =>
      by_cases hother : ticket = other
      · subst hother
        rw [htold.recorded] at hlookup
        cases hlookup
      · refine htold.elsewhere rfl ?_ rfl
        rw [stage_moveTo, if_neg hother]
  | planned other plan hmissed hprepare =>
      by_cases hother : ticket = other
      · subst hother
        apply htold.move <;> simp [hmissed]
      · refine htold.elsewhere rfl ?_ rfl
        rw [stage_moveTo, if_neg hother]
  | held other plan hplanned hfree hlookup =>
      refine htold.elsewhere rfl ?_ rfl
      change (moveTo other _ state).stage ticket = _
      rw [stage_moveTo, if_neg]
      rintro rfl
      exact htold.stored hlookup
  | recalled other given hlooks hopen hlookup =>
      apply htold.leave hsame
      rintro rfl _ ⟨⟩
      rw [htold.recorded] at hlookup
      exact Or.inl (Option.some.inj hlookup).symm
  | completed other plan next answer hholding hcomplete =>
      have hfree := hsound.free _ other (hsound.holding other plan hholding)
      have hends : Ends protocol (requests other) state.world next
          (some (.completed answer)) := .completed hfree hcomplete
      apply htold.leave hends.kept
      rintro rfl
      exact absurd hfree htold.stored
  | failed other refusal hstarted hopen =>
      apply htold.leave hsame
      rintro rfl _ ⟨⟩
      refine Or.inr ⟨?_, refusal, rfl⟩
      by_contra hnot
      exact (htold.stage hnot).elim hstarted hopen
  | crashed other =>
      apply htold.leave hsame
      rintro - _ ⟨⟩

/-- Once a record can answer it, a request is answered from the record, unless it looked
its key up before and then fails on its own. -/
theorem Sound.told (hsound : Sound protocol requests initial state)
    (hrecorded : lookedUp protocol (requests ticket) state.world = some reply)
    (hopen : state.stage ticket ≠ .closed) (steps : List Step) :
    Told protocol requests ticket reply (state.stage ticket ≠ .waiting)
      (Relational.run (Sentinel.serve protocol requests) state steps) := by
  have htold : Told protocol requests ticket reply (state.stage ticket ≠ .waiting)
      state := by
    refine ⟨hrecorded, fun hnot => Or.inl (not_not.mp hnot), ?_⟩
    intro given hgiven
    exact absurd (hsound.closed ticket given hgiven) hopen
  have hboth := serve_induct
    (fun state => Sound protocol requests initial state ∧ Told protocol requests ticket
      reply _ state)
    (fun state step hinv => ⟨hinv.1.serve step,
      hinv.2.served hinv.1 (served_serve protocol requests state step)⟩)
    ⟨hsound, htold⟩ steps
  exact hboth.2

/-! ## Requests under one key -/

/-- Nothing is stored, and every plan was made in the first world. -/
structure Unbooked (protocol : Protocol World Request Plan Key Record Answer Refusal)
    (requests : ℕ → Request) (initial : World)
    (state : Service World Plan Key Answer Refusal) : Prop where
  world : state.world = initial
  planned : ∀ ticket plan,
    state.stage ticket = .planned plan ∨ state.stage ticket = .holding plan →
      protocol.prepare (requests ticket) initial = .ok plan

/-- The request has completed, on the first world. -/
def BookedBy (protocol : Protocol World Request Plan Key Record Answer Refusal)
    (requests : ℕ → Request) (ticket : ℕ) (initial : World)
    (state : Service World Plan Key Answer Refusal) : Prop :=
  ∃ plan answer, protocol.prepare (requests ticket) initial = .ok plan ∧
    protocol.complete (requests ticket) plan initial = .ok (state.world, answer) ∧
      (ticket, .completed answer) ∈ state.replies

theorem Unbooked.leave (hunbooked : Unbooked protocol requests initial state)
    (ticket : ℕ) (reply : Option (Reply Answer Refusal)) :
    Unbooked protocol requests initial (leave ticket reply state) where
  world := hunbooked.world
  planned := by
    intro other plan hplan
    rw [stage_leave] at hplan
    by_cases hother : other = ticket
    · simp [if_pos hother] at hplan
    · rw [if_neg hother] at hplan
      exact hunbooked.planned other plan hplan

theorem Unbooked.move (hunbooked : Unbooked protocol requests initial state) {stage : Stage Plan}
    (hstage : ∀ plan, stage = .planned plan ∨ stage = .holding plan →
      protocol.prepare (requests ticket) initial = .ok plan) :
    Unbooked protocol requests initial (moveTo ticket stage state) where
  world := hunbooked.world
  planned := by
    intro other plan hplan
    rw [stage_moveTo] at hplan
    by_cases hother : other = ticket
    · rw [if_pos hother] at hplan
      rw [hother]
      exact hstage plan hplan
    · rw [if_neg hother] at hplan
      exact hunbooked.planned other plan hplan

theorem Unbooked.served (hunbooked : Unbooked protocol requests initial state)
    {next : Service World Plan Key Answer Refusal}
    (hserved : Served protocol requests state step next) :
    Unbooked protocol requests initial next ∨
      ∃ ticket, BookedBy protocol requests ticket initial next := by
  cases hserved with
  | idle => exact Or.inl hunbooked
  | missed ticket hwaiting hlookup =>
      apply Or.inl
      apply hunbooked.move
      simp
  | planned ticket plan hmissed hprepare =>
      apply Or.inl
      apply hunbooked.move
      intro other hother
      rw [hunbooked.world] at hprepare
      rcases hother with ⟨⟨⟩⟩ | ⟨⟨⟩⟩
      exact hprepare
  | held ticket plan hplanned hfree hlookup =>
      have hmoved : Unbooked protocol requests initial
          (moveTo ticket (.holding plan) state) := by
        apply hunbooked.move
        intro other hother
        rcases hother with ⟨⟨⟩⟩ | ⟨⟨⟩⟩
        exact hunbooked.planned ticket plan (Or.inl hplanned)
      exact Or.inl ⟨hmoved.world, hmoved.planned⟩
  | recalled ticket reply hlooks hopen hlookup => exact Or.inl (hunbooked.leave ticket _)
  | completed ticket plan next answer hholding hcomplete =>
      rw [hunbooked.world] at hcomplete
      exact Or.inr ⟨ticket, plan, answer,
        hunbooked.planned ticket plan (Or.inr hholding), hcomplete,
        mem_replies_leave.mpr (Or.inr ⟨_, rfl, rfl⟩)⟩
  | failed ticket refusal hstarted hopen => exact Or.inl (hunbooked.leave ticket _)
  | crashed ticket => exact Or.inl (hunbooked.leave ticket _)

/-- Under one key, nobody completes after the first. -/
theorem BookedBy.served (hbooked : BookedBy protocol requests ticket initial state)
    (hsound : Sound protocol requests initial state)
    (hkey : ∀ left right, protocol.key (requests left) = protocol.key (requests right))
    {next : Service World Plan Key Answer Refusal}
    (hserved : Served protocol requests state step next) :
    BookedBy protocol requests ticket initial next := by
  obtain ⟨plan, answer, hprepare, hcomplete, hreply⟩ := hbooked
  have hleave : ∀ other last, BookedBy protocol requests ticket initial
      (leave other last state) := fun other last =>
    ⟨plan, answer, hprepare, hcomplete, mem_replies_leave.mpr (Or.inl hreply)⟩
  cases hserved with
  | idle | missed | planned | held => exact ⟨plan, answer, hprepare, hcomplete, hreply⟩
  | recalled other _ _ _ _ => exact hleave other _
  | completed other held _ _ hholding _ =>
      have hfree := hsound.free _ other (hsound.holding other held hholding)
      rw [hkey other ticket, hsound.completed_lookup hreply] at hfree
      cases hfree
  | failed other _ _ _ => exact hleave other _
  | crashed other => exact hleave other _

/-- Of the requests under one key at most one completes, as it would alone. -/
theorem booked_once
    (hkey : ∀ left right, protocol.key (requests left) = protocol.key (requests right))
    (initial : World) (steps : List Step) :
    let final := run (serve protocol requests) (opened initial) steps
    final.world = initial ∧ (∀ ticket answer, (ticket, .completed answer) ∉ final.replies) ∨
      ∃ ticket, BookedBy protocol requests ticket initial final ∧
        ∀ other answer, (other, .completed answer) ∈ final.replies → other = ticket := by
  intro final
  have hsound : Sound protocol requests initial final := sound_run initial steps
  have hfinal := serve_induct
    (fun state => Sound protocol requests initial state ∧
      (Unbooked protocol requests initial state ∨
        ∃ ticket, BookedBy protocol requests ticket initial state))
    (fun state step hinv => ⟨hinv.1.serve step, by
      have hserved := served_serve protocol requests state step
      rcases hinv.2 with hunbooked | ⟨ticket, hbooked⟩
      · exact hunbooked.served hserved
      · exact Or.inr ⟨ticket, hbooked.served hinv.1 hkey hserved⟩⟩)
    ⟨sound_opened initial, Or.inl ⟨rfl, by simp [opened]⟩⟩ steps
  rcases hfinal.2 with hunbooked | ⟨ticket, hbooked⟩
  · refine Or.inl ⟨hunbooked.world, ?_⟩
    intro ticket answer hreply
    have hlookup := hsound.completed_lookup hreply
    rw [hunbooked.world, hsound.fresh ticket answer hreply] at hlookup
    cases hlookup
  · refine Or.inr ⟨ticket, hbooked, ?_⟩
    intro other answer hother
    obtain ⟨-, first, -, -, hfirst⟩ := hbooked
    exact hsound.once other ticket answer first hother hfirst (hkey other ticket)

end Relational.Sentinel
