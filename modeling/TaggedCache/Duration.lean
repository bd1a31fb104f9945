import TaggedCache.Numeral

/-!
# Spans of time

Time limits are whole milliseconds. Their text is in seconds from one second on, with the fraction
that is not zero, and otherwise in milliseconds.
-/

namespace TaggedCache

/-- A span of time in milliseconds. -/
structure Duration where
  /-- Whole milliseconds. -/
  millis : Nat
deriving DecidableEq, Repr, Inhabited

namespace Duration

/-- The digits of the thousandths behind a point, without trailing zeros. -/
def fractionDigits (thousandths : Nat) : List Char :=
  if thousandths = 0 then []
  else
    let digits := [Numeral.digit (thousandths / 100), Numeral.digit (thousandths / 10 % 10),
      Numeral.digit (thousandths % 10)]
    '.' :: (digits.reverse.dropWhile (· = '0')).reverse

/-- The text of a span: `0ns`, `50ms`, `1s`, `1.5s`. -/
def text (d : Duration) : String :=
  let seconds := d.millis / 1000
  if d.millis = 0 then "0ns"
  else if seconds = 0 then String.ofList (Numeral.digits d.millis ++ ['m', 's'])
  else String.ofList (Numeral.digits seconds ++ fractionDigits (d.millis % 1000) ++ ['s'])

end Duration
end TaggedCache
