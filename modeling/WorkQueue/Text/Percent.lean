import WorkQueue.Text.Hex
import WorkQueue.Text.Utf8

/-!
# Percent encoding

Bytes in a text where `%` and two hexadecimal digits stand for a byte, and the parameters at the
end of an address: names and values with an equals sign between them, joined by ampersands, with a
plus for each space.
-/

namespace WorkQueue.Text

/-- The bytes that a text stands for. A `%` that no two hexadecimal digits follow is itself. -/
def percentDecode : List Char → List UInt8
  | '%' :: high :: low :: rest =>
      match hexValue? high, hexValue? low with
      | some high, some low => UInt8.ofNat (16 * high + low) :: percentDecode rest
      | _, _ => 0x25 :: percentDecode (high :: low :: rest)
  | c :: rest => writeUtf8 (String.singleton c) ++ percentDecode rest
  | [] => []

/-- The pieces of a list between marks. -/
def pieces {α : Type} [DecidableEq α] (mark : α) : List α → List (List α)
  | [] => [[]]
  | c :: rest =>
      if c = mark then [] :: pieces mark rest
      else match pieces mark rest with
        | piece :: others => (c :: piece) :: others
        | [] => [[c]]

/-- A name or a value among parameters. Bytes that are no text are replaced. -/
def formText (text : List Char) : String :=
  readUtf8Lossy (percentDecode (text.map fun c => if c = '+' then ' ' else c))

/-- The names and the values of parameters. A name alone has the empty value. -/
def formParameters (text : List Char) : List (String × String) :=
  ((pieces '&' text).filter fun piece => !piece.isEmpty).map fun piece =>
    (formText (piece.takeWhile (· ≠ '=')), formText ((piece.dropWhile (· ≠ '=')).drop 1))

end WorkQueue.Text
