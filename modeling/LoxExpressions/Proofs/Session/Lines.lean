import LoxExpressions.Command
import LoxExpressions.Proofs.Output.Emission

/-!
Lines of an input and their texts. A newline stands only at the end of a line, so a line without the
breaks at its end holds none.
-/

namespace LoxExpressions

theorem utf8Bytes_eq_flatMap (text : String) :
    utf8Bytes text = text.toList.flatMap String.utf8EncodeChar := by
  have bytes : text.toUTF8 = text.toList.utf8Encode := by
    rw [← String.toByteArray_ofList, String.ofList_toList]
    rfl
  rw [utf8Bytes, bytes, List.utf8Encode, List.data_toByteArray]

namespace Session

variable {bytes body : List UInt8} {lines : List (List UInt8)}

end Session

end LoxExpressions
