/-!
# Byte lengths

Positions in a text are byte offsets into its UTF-8 form.  `byteLength`
counts the bytes of a run of characters, so a position is the byte length
of what stands before it.
-/

namespace PolicyWeave.Text

/-- The number of bytes of a run of characters. -/
def byteLength : List Char → Nat
  | [] => 0
  | c :: cs => c.utf8Size + byteLength cs

@[simp] theorem byteLength_nil : byteLength [] = 0 := rfl

@[simp] theorem byteLength_cons (c : Char) (cs : List Char) :
    byteLength (c :: cs) = c.utf8Size + byteLength cs := rfl

/-- Byte lengths add up. -/
@[simp] theorem byteLength_append (as bs : List Char) :
    byteLength (as ++ bs) = byteLength as + byteLength bs := by
  induction as with
  | nil => simp
  | cons c cs ih => simp [ih, Nat.add_assoc]

end PolicyWeave.Text
