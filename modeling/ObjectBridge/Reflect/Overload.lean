import ObjectBridge.Value.Kind

/-!
# Overload resolution

Which of several declarations answers a call depends on their parameter kinds
and the kinds of the arguments alone.  A call without arguments goes to the
first declaration without parameters.  Any other call goes to the declaration
with the most parameters of exactly the kind of their argument, among those of
equal length whose every parameter the argument may be passed for; if several
have that many, the call is ambiguous between them.
-/

namespace ObjectBridge

/-- The outcome of resolving a call. -/
inductive Resolution (α : Type) where
  | missing
  | unique (chosen : α)
  | ambiguous (tied : List α)
deriving DecidableEq, Repr

/-- The number of arguments that have exactly the kind of their parameter, if
every argument may be passed for its parameter. -/
def exactMatches? : List Kind → List Kind → Option Nat
  | parameter :: parameters, argument :: arguments =>
      if argument = parameter then (exactMatches? parameters arguments).map (· + 1)
      else if argument.widensTo parameter then exactMatches? parameters arguments
      else none
  | _, _ => some 0

/-- The declarations that lead so far, and how many exact matches they have. -/
structure Leaders (α : Type) where
  score : Nat
  tied : List α

namespace Leaders

variable {α : Type}

/-- Let a declaration that fits with some score compete. -/
def challenge (leaders : Leaders α) (declaration : α) (score : Nat) : Leaders α :=
  if leaders.tied.isEmpty || leaders.score < score then ⟨score, [declaration]⟩
  else if score = leaders.score then ⟨leaders.score, leaders.tied ++ [declaration]⟩
  else leaders

/-- Let one declaration compete for the arguments. -/
def consider (parameters : α → List Kind) (arguments : List Kind) (leaders : Leaders α)
    (declaration : α) : Leaders α :=
  if (parameters declaration).length = arguments.length then
    match exactMatches? (parameters declaration) arguments with
    | some score => leaders.challenge declaration score
    | none => leaders
  else leaders

end Leaders

/-- The declaration that answers a call with arguments of the given kinds. -/
def resolveOverload {α : Type} (parameters : α → List Kind) (declared : List α)
    (arguments : List Kind) : Resolution α :=
  if arguments.isEmpty then
    match declared.find? fun declaration => (parameters declaration).isEmpty with
    | some declaration => .unique declaration
    | none => .missing
  else
    match (declared.foldl (Leaders.consider parameters arguments) ⟨0, []⟩).tied with
    | [] => .missing
    | [only] => .unique only
    | tied => .ambiguous tied

end ObjectBridge
