/-!
# Base64

The standard alphabet with padding: three bytes become four symbols, and
a last group of one or two bytes is filled up with `=`.
-/

namespace PolicyWeave.Digest

/-- The symbol of six bits. -/
def base64Symbol (n : Nat) : Char :=
  if n < 26 then Char.ofNat (65 + n)
  else if n < 52 then Char.ofNat (71 + n)
  else if n < 62 then Char.ofNat (n - 4)
  else if n == 62 then '+'
  else '/'

/-- The symbols of a run of bytes. -/
def base64Chars : List UInt8 → List Char
  | a :: b :: c :: rest =>
    let n := a.toNat * 65536 + b.toNat * 256 + c.toNat
    base64Symbol (n / 262144) :: base64Symbol (n / 4096 % 64)
      :: base64Symbol (n / 64 % 64) :: base64Symbol (n % 64)
      :: base64Chars rest
  | [a, b] =>
    let n := a.toNat * 65536 + b.toNat * 256
    [base64Symbol (n / 262144), base64Symbol (n / 4096 % 64),
      base64Symbol (n / 64 % 64), '=']
  | [a] =>
    let n := a.toNat * 65536
    [base64Symbol (n / 262144), base64Symbol (n / 4096 % 64), '=', '=']
  | [] => []

/-- The base64 form of a text. -/
def base64 (s : String) : String :=
  String.ofList (base64Chars s.toUTF8.toList)

end PolicyWeave.Digest
