import LoongClaw.Foundation.Text
import Mathlib.Logic.Function.Basic

namespace LoongClaw.Foundation

/-!
# Encoded and signed text

An encoder with its decoder, and text that carries a signature over itself.
The signature is abstract: it is injective, and a text that is presented for
checking carries no signature but those the signer gave out.
-/

universe u v w

/-- An encoder with a decoder that reads back what was written. -/
structure Codec (α : Type u) (β : Type v) (ε : Type w) where
  encode : α -> β
  decode : β -> Except ε α
  decode_encode : ∀ value, decode (encode value) = .ok value

/-- A signature under a key that stays with the signer. -/
structure KeyedSignature where
  sign : String -> String
  sign_injective : Function.Injective sign

namespace KeyedSignature

variable (signature : KeyedSignature)

/-- A body followed by a full stop and its signature. -/
def sealText (body : String) : String :=
  body ++ "." ++ signature.sign body

/-- If what follows the first full stop of the presented text is a signature,
then the signer has given it out. -/
def Unforgeable (signed : List String) (presented : String) : Prop :=
  ∀ body text, Text.splitOnce '.' presented = some (body, signature.sign text) ->
    ∃ earlier, earlier ∈ signed /\ signature.sign earlier = signature.sign text

theorem sealText_toList (body : String) :
    (signature.sealText body).toList = body.toList ++ '.' :: (signature.sign body).toList := by
  unfold sealText
  simp

theorem splitOnce_sealText {body : String} (dotFree : '.' ∉ body.toList) :
    Text.splitOnce '.' (signature.sealText body) = some (body, signature.sign body) :=
  Text.splitOnce_of_toList (signature.sealText_toList body) dotFree

/-- A presented text whose signature is right was sealed by the signer. -/
theorem sealed_of_verified {signed : List String} {presented body : String}
    (unforgeable : signature.Unforgeable signed presented)
    (split : Text.splitOnce '.' presented = some (body, signature.sign body)) :
    body ∈ signed /\ presented = signature.sealText body := by
  rcases unforgeable body body split with ⟨earlier, given, sameSignature⟩
  have same : earlier = body := signature.sign_injective sameSignature
  refine ⟨same ▸ given, ?_⟩
  apply String.toList_injective
  rw [signature.sealText_toList, Text.toList_of_splitOnce split]

end KeyedSignature

end LoongClaw.Foundation
