import OpenResponse.Declaration
import OpenResponse.Proofs.Token.Evaluation
import OpenResponse.Proofs.Token.Faults

/-!
# Faults of reading types

A reader that fails at a token fails with a diagnostic, and so does one that is put together from
such readers.  All that types are read with is of this kind.  So a text that is no type is reported
where it goes wrong, unless it cannot even be cut into tokens because of an escape that is out of
range.

The property is about failures alone, and it is stated of a parser on every stream, so it passes
through sequences and choices without knowing what has been read before.  The readers that look and
never fail have it for nothing.  What is left are the two that do fail, and both build their fault
from the token at which they stand.  Types are read on a budget, and the induction is on it.

## Main definitions

* `Parser.Diagnoses` — readers that fail with nothing but diagnostics

## Main statements

* `Parser.Diagnoses.typeRefWithin` — types
* `Field.type_error` — the faults of the type of a field

## Hypotheses

`failAt` asks that the cause is one of grammar.  This is what makes the fault a diagnostic, and all
causes that types are refused with are of this kind.

A text is first cut into tokens, which may fail in two ways, and then read.  The two outcomes of
`Field.type_error` are just these: a diagnostic can come from either step, an escape that is out of
range only from the first.
-/

namespace OpenResponse

namespace Parser

variable {α β : Type}

/-- A reader that fails, if it does, with a diagnostic, and never with one of the faults that say
nothing about a place in the text. -/
def Diagnoses (parser : Parser α) : Prop :=
  ∀ stream rest fault, parser stream = .error fault rest → fault.IsDiagnostic

namespace Diagnoses

private theorem pure (value : α) : Diagnoses (pure value) := nofun

private theorem bind {first : Parser α} {second : α → Parser β} (firstDiagnoses : Diagnoses first)
    (secondDiagnoses : ∀ value, Diagnoses (second value)) : Diagnoses (first >>= second) := by
  intro stream rest fault failed
  rw [bind_apply] at failed
  split at failed
  next value middle _ => exact secondDiagnoses value middle rest fault failed
  next other middle isFault =>
    cases failed
    exact firstDiagnoses stream _ _ isFault

theorem map {parser : Parser α} (diagnoses : Diagnoses parser) (change : α → β) :
    Diagnoses (change <$> parser) := by
  rw [map_eq_pure_bind]
  exact diagnoses.bind fun _ => pure _

private theorem ite {condition : Prop} [Decidable condition] {yes no : Parser α}
    (yesDiagnoses : Diagnoses yes) (noDiagnoses : Diagnoses no) :
    Diagnoses (if condition then yes else no) := by
  split
  · exact yesDiagnoses
  · exact noDiagnoses

/-! ### The elementary readers

A reader that fails in no case is given here with those that fail at a token, so that the readers of
types are put together from parts that all have the property. -/

private theorem peek : Diagnoses Parser.peek := nofun

private theorem next : Diagnoses Parser.next := nofun

private theorem remaining : Diagnoses Parser.remaining := nofun

/-- A fault of grammar that is found at a token. -/
theorem failAt (token : Token) {cause : Cause} (grammar : cause.kind = .grammar) :
    Diagnoses (Parser.failAt (α := α) token cause) := by
  rintro _ _ _ ⟨⟩
  exact .found grammar

private theorem eat (kind : TokenKind) : Diagnoses (Parser.eat kind) :=
  peek.bind fun _ => ite (next.map _) (pure _)

private theorem expectAs (kind : TokenKind) (what : String) :
    Diagnoses (Parser.expectAs kind what) :=
  peek.bind fun _ => ite next (peek.bind fun token => failAt token rfl)

private theorem expectEnd : Diagnoses Parser.expectEnd :=
  peek.bind fun token => ite (pure _) (failAt token rfl)

private theorem separatedWithin {item : Parser α} (diagnoses : Diagnoses item) (close : TokenKind)
    (what : String) (budget : Nat) : Diagnoses (Parser.separatedWithin close what item budget) := by
  induction budget with
  | zero => exact diagnoses.bind fun _ => (expectAs close what).bind fun _ => pure _
  | succ budget ih =>
    refine (eat close).bind fun _ => ite (pure _) (diagnoses.bind fun _ => (eat .comma).bind
      fun _ => ite (ih.bind fun _ => pure _) ?_)
    exact (expectAs close what).bind fun _ => pure _

/-! ### Types

The text of a field is read from the place where the field stands.  A fault therefore says where in
the source its type goes wrong. -/

private theorem typePath : Diagnoses Parser.typePath := by
  have names : Diagnoses Parser.pathNames := nofun
  exact (eat _).bind fun _ => (expectAs _ _).bind fun _ => names.bind fun _ => pure _

/-- A type fails with a diagnostic, whatever its budget: a type that goes on when nothing of it is
left is refused at the token where that is. -/
theorem typeRefWithin (budget : Nat) : Diagnoses (Parser.typeRefWithin budget) := by
  induction budget with
  | zero => exact peek.bind fun token => failAt token rfl
  | succ budget ih =>
    have path : Diagnoses (do
        let path ← Parser.typePath
        if (← Parser.eat .less).isSome then
          let args ← Parser.separated .greater "`,` or `>`"
            (Parser.typeArgument (Parser.typeRefWithin budget))
          return TypeRef.path path (args.filterMap id)
        else return .path path []) := by
      have argument : Diagnoses (Parser.typeArgument (Parser.typeRefWithin budget)) :=
        (eat _).bind fun _ => ite (pure _) (ih.map _)
      refine typePath.bind fun _ => (eat _).bind fun _ => ite ?_ (pure _)
      exact (remaining.bind fun _ => separatedWithin argument _ _ _).bind fun _ => pure _
    -- the first token tells references, arrays, the unit and paths apart
    refine peek.bind fun token => ?_
    split
    next =>
      have target : Diagnoses (do
          if (← Parser.peek).isWord "mut" then
            let _ ← Parser.next
          Parser.typeRefWithin budget) := peek.bind fun _ => ite (next.bind fun _ => ih) ih
      exact next.bind fun _ => (eat _).bind fun _ => target
    next =>
      have close (item : TypeRef) : Diagnoses (do
          let _ ← Parser.expect .closeBracket
          return TypeRef.slice item) := (expectAs _ _).bind fun _ => pure _
      refine next.bind fun _ => ih.bind fun item => (eat _).bind fun _ => ?_
      exact ite ((expectAs _ _).bind fun _ => close item) (close item)
    next =>
      have unit : Diagnoses (do
          let _ ← Parser.next
          return TypeRef.unit) := next.bind fun _ => pure _
      refine next.bind fun _ => peek.bind fun closing => ?_
      exact ite unit ((failAt closing rfl).bind fun _ => unit)
    next => exact path
    next => exact path
    next => exact failAt token rfl

/-- A text on which such a reader fails is wrong where that is said, or comes to an escape that is
out of range. -/
theorem runOn {parser : Parser α} (diagnoses : Diagnoses parser) {origin : Location} {text : String}
    {fault : Fault} (failed : parser.runOn origin text = .error fault) :
    fault.IsDiagnostic ∨
      fault = .nowhere .escapeOverflow ∧ MeetsHugeEscape origin text.toList := by
  unfold Parser.runOn at failed
  split at failed
  next scanned =>
    cases failed
    exact tokenize_error scanned
  next stream _ =>
    split at failed
    next => cases failed
    next rest read =>
      cases failed
      exact .inl (diagnoses stream rest _ read)

end Diagnoses

end Parser

/-- The type of a field fails with a diagnostic, or because it comes to an escape that is out of
range. -/
theorem Field.type_error {field : Field} {fault : Fault} (failed : field.type = .error fault) :
    fault.IsDiagnostic ∨
      fault = .nowhere .escapeOverflow ∧ MeetsHugeEscape field.location field.typeText.toList :=
  have type : Parser.Diagnoses Parser.typeRef :=
    Parser.Diagnoses.remaining.bind Parser.Diagnoses.typeRefWithin
  (type.bind fun _ => Parser.Diagnoses.expectEnd.bind fun _ => Parser.Diagnoses.pure _).runOn failed

end OpenResponse
