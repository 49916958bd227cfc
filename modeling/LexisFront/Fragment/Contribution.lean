import LexisFront.Fragment.Error
import LexisFront.Fragment.Verdict
import LexisFront.Settings
import LexisFront.Token.Basic

/-!
# What a fragment contributes

A fragment that is not blank contributes one token or ends the run with an error. The verdict
on its text decides which; the settings decide only whether an operator may lose the characters
after its glyph.
-/

namespace LexisFront

/-- What a fragment contributes to a run. -/
inductive Contribution where
  /-- A token, made from all of the fragment but the dropped characters. -/
  | token (token : Token) (dropped : List Char)
  /-- The error that ends the run. -/
  | error (error : LexicalError)
deriving DecidableEq, Repr

namespace Contribution

/-- The contribution of the fragment with a number at a place. There is none when the place of
an operator glyph is out of range. -/
def ofFragment? (settings : LexicalSettings) (index : Nat) (span : Span)
    (fragment : List Char) : Option Contribution :=
  match Verdict.ofFragment fragment with
  | .tooLong => some (.error (.fragmentTooLong fragment.length index span))
  | .operator kind glyph rest =>
    if settings.strictOperators && !rest.isEmpty then
      some (.error (.malformedOperator (String.ofList fragment) index span))
    else
      (Span.covering? span.start [glyph]).map fun place =>
        .token ⟨kind, String.ofList [glyph], place⟩ rest
  | .whole kind => some (.token ⟨kind, String.ofList fragment, span⟩ [])
  | .unknown => some (.error (.unrecognizedToken (String.ofList fragment) index span))

end Contribution

end LexisFront
