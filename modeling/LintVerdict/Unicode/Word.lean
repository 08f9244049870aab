import LintVerdict.Unicode.Table

/-!
# Word characters

The characters that make up words: letters and other alphabetic characters, marks, decimal
digits, connector punctuation and the two join controls.

## Main definitions

* `wordRanges`: their ranges.
-/

namespace LintVerdict.Unicode

/-- The written form of the ranges, see `Table.ranges`. -/
def wordTable : List String :=
  [
    "1c a 7 q 4 1 1 q 1b 1 a 1 4 1 5 n 1 v 1 cq 4 c e 5 7 1 1 1 h 39 1 2 2 4 1 1 6 1 1 3 1 1 1 k",
    "1 2b 1 3v 1 4t 1 12 2 1 6 15 8 19 1 1 1 2 1 2 1 1 8 r 4 4 t b 5 22 4 2u 1 8 2 a 1 j 2 1 g 1n",
    "2 2t e 1i 4 1 2 1 2 1a i s 4 b 5 o 1 6 8 23 1 3l 2 a 1 j 1 8 2 2 2 m 1 7 1 1 3 4 2 9 2 2 2 4",
    "8 1 4 2 1 5 2 c a 1 1 1 2 3 1 6 4 2 2 m 1 7 1 2 1 2 1 2 2 1 1 5 4 2 2 3 3 1 7 4 1 1 7 g b 3",
    "1 9 1 3 1 m 1 7 1 2 1 5 2 a 1 3 1 3 2 1 f 4 2 a 9 7 1 3 1 8 2 2 2 m 1 7 1 2 1 5 2 9 2 2 2 3",
    "7 3 4 2 1 5 2 a 1 1 g 2 1 6 3 3 1 4 3 2 1 1 1 2 3 2 3 3 3 c 4 5 3 3 1 4 2 1 6 1 e a g d 1 3",
    "1 n 1 g 2 9 1 3 1 4 7 2 1 3 2 1 2 4 2 a g 4 1 8 1 3 1 n 1 a 1 5 2 9 1 3 1 4 7 2 6 2 1 4 2 a",
    "1 3 c d 1 3 1 1f 1 3 1 5 5 4 7 5 2 a a 6 1 3 1 i 3 o 1 9 1 1 2 7 3 1 4 6 1 1 1 8 6 a 2 2 d",
    "1m 5 f 1 a 13 2 1 1 1 5 1 o 1 1 1 n 2 5 1 1 1 7 1 a 2 4 w 1 n 2 6 a b 1 1 1 1 1 4 a 1 10 4 k",
    "1 i 1 10 9 1 1l 22 6 26 2 12 1 1 5 1 2 17 1 99 1 4 2 7 1 1 1 4 2 15 1 4 2 x 1 4 2 7 1 1 1 4",
    "2 f 1 1l 1 4 2 1v 2 3 w g g 2e 2 6 3 h8 2 h 1 q 5 23 3 b 7 m 9 m b k c d 1 3 1 2 c 2c 3 1 4",
    "2 2 a x 3 1 b 6 2h 7 17 5 1y a v 1 c 4 c a 14 2 5 b 18 4 q 6 a 12 s 4 1r 1 t 2 b 6 a d 1 8 v",
    "1d 25 3 a h 9 c 38 c 1k 8 a 3 1d 2 b 5 17 2 3 g 3 1 13 5 eu 2 6 2 12 2 6 2 8 1 1 1 1 1 1 1 v",
    "2 1h 1 7 1 1 3 3 1 7 3 4 2 6 4 d 5 3 1 7 f 2 1d 2 j 1 s 1 d 1 g d 1f x h 1 4 1 2 a 1 1 3 5 6",
    "1 1 1 1 1 1 4 1 b 2 4 5 5 4 1 h 15 ml 1g 1ee 6d 6 9 c 12 1 1 5 1 2 1k 7 1 f o 9 7 1 7 1 7 1",
    "7 1 7 1 7 1 7 1 7 1 w 1b 1 d1 3 p f 1 5 2 5 4 2e 2 2 2 3 1 2i 1 4 5 17 1 2m h w 1c g e8 534",
    "1s h3h 1v 1a 2 7h 3 s k 1f 1 a 1 37 11 9 2 2v 2 1v 2 2 1 1 1 8 l 1i 4 1 j 1g c 1y a a 6 o 3",
    "1 1 1d 2 10 c t 3 1t e b 6 v 1 1j 9 e 2 a 6 n 3 21 o 3 2 g 2 5 a 6 2 6 2 6 9 7 1 7 1 17 1 e",
    "6 3f 1 2 2 a 6 8mc c n 4 1d 6is a6 2 2y 12 7 c 5 5 c 1 d 1 5 1 1 1 2 1 2 1 30 x a3 i 1s 2 1i",
    "14 c 4 g g g 3 2 o 3 w 5 1 3r j a 7 q 4 1 1 q b 2h 3 6 2 6 2 6 2 3 z c 1 q 1 j 1 2 1 f 2 e y",
    "3f 1x 1h 3s 1 3m t 3 1d f 1 v w d u 5 17 5 u 2 10 4 8 1 5 16 4e 2 a 6 10 4 10 4 14 8 1g c b",
    "1 f 1 7 1 2 1 b 1 f 1 7 1 2 3 1g c 8n 9 m a 8 o 6 1 16 1 9 1x 6 2 1 1 18 1 2 3 1 2 n a n 9 v",
    "1t j 1 2 a m a q 1y 1k 6 2 1s 4 1 2 5 8 1 3 1 t 2 3 4 1 w t 3 t z 8 1 u p 1i a m a j d i 32",
    "21 1j 1f d 1f d 14 8 a 6 12 3 5 1 n 6y 16 1 2 3 2 g 3 1j x a 1 8 x v m 16 l r n 9 1z v g 9",
    "1o 7 1 d p 7 a 6 1h 1 a 4 4 8 10 2 1 9 1x 4 4 1 d 1 1 z i 1 11 6 4 1q 7 1 1 1 4 1 f 1 a 7 1n",
    "5 a 6 4 1 8 2 2 2 m 1 7 1 2 1 5 1 a 2 2 2 3 2 1 6 1 5 7 2 7 3 5 b a 1 1 2 1 1 12 1 a 1 1 2 1",
    "1 4 1 8 d 2 t 23 5 a 4 4 u 1y 1 1 8 a 4m 1i 2 9 n 6 y 1t 3 1 b a 12 1l 7 a 6 k s r 2 f 4 a 6",
    "7 55 1n 2t 22 l 8 2 1 2 8 1 2 1 u 1 2 2 9 c a 1y 8 2 1a 2 8 1 2 r 1r 8 1 8 22 3 1 i 21 5j x",
    "f a 6 9 1 19 1 9 f a o u 2 m 1 e 21 7 1 2 1 18 3 1 1 2 1 9 8 a 6 6 1 2 1 11 1 2 1 6 7 a 8m n",
    "9 h 1 15 3 5 d b 2d 1 27 pm 2u 33 h 5g 218 2p f ts g m a 32z 5 g7 5a1 1m 1c6 ft 7 v 1 a 6 27",
    "1 a 6 u 2 5 b 1j 9 4 c a 9 l 5 j c0 19 3 a 5i 1s 3k 23 4 1l 7 h 1s 2 1 2 b 2 e 4qg 8 ye 15 a",
    "6w7 4 1 7 1 2 1 83 f 1 t 3 2 1 e 4 8 b0 1s4 2z 5 d 3 9 7 a 3 2 381 a ee 1a 2 n f2 5 3 6 8 8",
    "2 7 u 4 44 3 cb 2d 1 1z 1 2 2 1 2 2 2 4 1 c 1 1 1 7 1 1t 1 4 2 8 1 7 1 s 1 4 1 5 1 1 3 7 1",
    "9g 2 p 1 p 1 v 1 p 1 v 1 p 1 v 1 p 1 v 1 p 1 8 2 1e e8 1j 4 1e 8 1 e 1 m 5 1 f uo v 6 6 5x 7",
    "1 h 2 7 1 2 1 5 5 1q x 1 34 19 3 e 2 a 4 1 8x v h 1m d2 16 5y 17 dh 7 1 4 1 2 1 f 1 5h b 7",
    "15 24 4 a x2 4 1 r 1 2 1 1 2 1 1 a 1 4 1 1 1 1 6 1 4 1 1 1 1 1 1 3 1 2 1 1 2 1 1 1 1 1 1 1 1",
    "1 1 2 1 1 2 4 1 7 1 4 1 4 1 1 1 a 1 h 5 3 1 5 1 h hg q 6 q 6 q 21y a sm wyo w 37e 6 66 2 4g2",
    "e 5rl f ha 1wi f2 15u 3t7 5 38g f9e8 6o"]

/-- The ranges of word characters, as first and last code point. -/
def wordRanges : List (Nat × Nat) := Table.ranges wordTable

end LintVerdict.Unicode
