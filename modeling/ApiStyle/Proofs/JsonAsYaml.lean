import ApiStyle.Document.Load
import Mathlib.Data.List.TakeWhile

/-! JSON texts that YAML refuses: those with a character that it does not allow, even inside a string, and those with a
pair of escapes that stand for one character. -/

namespace ApiStyle

namespace Yaml

private theorem Contents.ofText_forbidden {text : List Char} {character : Char} (held : character ∈ text)
    (forbidden : isAllowed character = false) :
    Contents.ofText text = { root := .broken (.forbidden (Text.byteCount (text.takeWhile isAllowed))) } := by
  have found : forbidden? text = some (Text.byteCount (text.takeWhile isAllowed)) := by
    unfold forbidden?
    split
    next none => exact absurd (List.dropWhile_eq_nil_iff.mp none character held) (Bool.eq_false_iff.mp forbidden)
    next => rfl
  rw [ofText, found]

theorem decodeText_broken {text : String} {fault : Malformed}
    (broken : (Contents.ofText text.toList).root = .broken fault)
    {σ : Type} (expected : String) (fields : List (Source.Field Reading Node σ)) (initial : σ) :
    decodeText (Source.readDefaulted expected fields initial) text = .error (.malformed fault) := by
  unfold decodeText
  dsimp only
  rw [broken]
  rfl

end Yaml

namespace Document

theorem ofYaml_forbidden {text : String} {character : Char} (held : character ∈ text.toList)
    (forbidden : Yaml.isAllowed character = false) :
    ofYaml text = .error (.yaml (.malformed (.forbidden (Text.byteCount (text.toList.takeWhile Yaml.isAllowed))))) := by
  have broken := Yaml.Contents.ofText_forbidden held forbidden
  unfold ofYaml decode
  rw [Yaml.decodeText_broken (congrArg Yaml.Contents.root broken)]
  rfl

/-- A title written as the escapes of two surrogates. -/
def paired : String := "\x7b\"info\":\x7b\"title\":\"\\ud83d\\ude00\"\x7d\x7d"

/-- JSON takes the two escapes for one character, YAML refuses the first of them. -/
theorem paired_escapes_refused : ¬ ∀ text document, ofJson text = .ok document → ofYaml text = .ok document := by
  intro accepts
  have read : (ofJson paired).toOption.map info = some (some { title := some "😀" }) := by decide +kernel
  have refused : (ofYaml paired).toOption.isNone = true := by decide +kernel
  cases found : ofJson paired with
  | error fault =>
    rw [found] at read
    cases read
  | ok document =>
    rw [accepts _ _ found] at refused
    cases refused

end Document

end ApiStyle
