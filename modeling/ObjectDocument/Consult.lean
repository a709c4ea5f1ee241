import ObjectDocument.Model

/-!
# Consultations

Making a model, checking it and following paths all need the models of other types.  A consultation
is such a computation written out before anything answers it: it is done with a value, it has
something to tell, or it asks for the model of a type and goes on with any answer.  Asking is all
that it can do to a mapper, so what holds of a mapper before and after a request holds before and
after a consultation (`run_induction`).
-/

namespace ObjectDocument

abbrev ModelAnswer := Except MappingError (Option EntityModel)

/-- A computation that asks for models. -/
inductive Consult (α : Type) where
  | done (value : α)
  | note (record : LogRecord) (next : Consult α)
  | ask (key : TypeKey) (resume : ModelAnswer → Consult α)

namespace Consult

def bind {α β : Type} (first : Consult α) (next : α → Consult β) : Consult β :=
  match first with
  | done value => next value
  | note record rest => note record (rest.bind next)
  | ask key resume => ask key fun answer => (resume answer).bind next

instance : Monad Consult where
  pure := done
  bind := bind

@[simp] theorem done_bind {α β : Type} (value : α) (next : α → Consult β) :
    (done value).bind next = next value := rfl

theorem bind_done {α : Type} (first : Consult α) : first.bind done = first := by
  induction first with
  | done => rfl
  | note record rest ih => simp [bind, ih]
  | ask key resume ih => simp [bind, ih]

theorem bind_assoc {α β γ : Type} (first : Consult α) (next : α → Consult β)
    (last : β → Consult γ) :
    (first.bind next).bind last = first.bind fun value => (next value).bind last := by
  induction first with
  | done => rfl
  | note record rest ih => simp [bind, ih]
  | ask key resume ih => simp [bind, ih]

instance : LawfulMonad Consult :=
  LawfulMonad.mk' Consult (fun first => bind_done first) (fun _ _ => rfl) bind_assoc

def tell (record : LogRecord) : Consult Unit :=
  note record (done ())

def tellAll (records : List LogRecord) : Consult Unit :=
  records.foldr note (done ())

def request (key : TypeKey) : Consult ModelAnswer :=
  ask key done

/-- A consultation by a keeper of some state, which writes records down and answers requests. -/
def run {σ α : Type} (write : LogRecord → σ → σ) (answer : TypeKey → StateM σ ModelAnswer) :
    Consult α → StateM σ α
  | done value => pure value
  | note record next => fun state => next.run write answer (write record state)
  | ask key resume => fun state =>
    let (found, state) := answer key state
    (resume found).run write answer state

/-- What holds of a state, and is kept by writing and by answering, holds after a consultation. -/
theorem run_induction {σ α : Type} (write : LogRecord → σ → σ)
    (answer : TypeKey → StateM σ ModelAnswer) (holds : σ → Prop)
    (keep_write : ∀ record state, holds state → holds (write record state))
    (keep_answer : ∀ key state, holds state → holds (answer key state).2)
    (consult : Consult α) (state : σ) (h : holds state) :
    holds (consult.run write answer state).2 := by
  induction consult generalizing state with
  | done value => exact h
  | note record next ih => exact ih _ (keep_write record state h)
  | ask key resume ih => exact ih _ _ (keep_answer key state h)

end Consult

/-- A consultation that may fail. -/
abbrev ConsultM := ExceptT MappingError Consult

namespace ConsultM

def ofExcept {α : Type} (outcome : Except MappingError α) : ConsultM α :=
  ExceptT.mk (Consult.done outcome)

def tell (record : LogRecord) : ConsultM Unit :=
  ExceptT.lift (Consult.tell record)

def request (key : TypeKey) : ConsultM (Option EntityModel) :=
  ExceptT.mk (Consult.request key)

end ConsultM

end ObjectDocument
