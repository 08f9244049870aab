import LintVerdict.Unicode.Table

/-!
# Ages

The age of a character is the version of the standard that added it. A query for a version asks for
all the characters that this version has.

## Main definitions

* `ageRanges?`: the ranges of the characters that a version has.
-/

namespace LintVerdict.Unicode

/-- The written form of the ages, see `Table.runs`. -/
def ageTable : List String :=
  [
    "0A0 dyA3 4A0 uA3 8A5 1A6 1A3 iA6 3A7 bA8 eA0 2hA3 5A6 2A0 1bA3 1A0 aA3 5A6 hA0 1yA3 9A5 1A6",
    "8A7 5A6 3A0 2A3 1A5 dA9 4A0 2A9 2U 2A0 1A8 3A0 1Af 1U 4A0 7U 1A0 1U 1A0 kU 1A0 18A9 1A0 7A3",
    "1A5 2A0 1A3 1A0 1A3 1A0 1A3 1A0 1A3 1A0 iA4 2A5 1A6 5A7 4A3 1A0 cA3 1A0 1uA3 1A0 cA3 1A0",
    "15A9 1A3 2A5 2A3 4A0 1hA5 2A0 2A5 2A0 2A5 2A8 1A0 sA3 2A0 8A7 2A0 2A8 6A5 gA8 4A9 gAa 2Ab",
    "2Af 8U 1A0 12U 2A0 7Aj 1A0 13Aj 1A0 1A3 1U 2Af 2Ac 1U 1A1 hA7 1A1 dA0 aA8 1A0 9A1 1A7 3U 8A0",
    "rU 4Aj 1A0 5U bA6 4Ac 1Af 1A9 5A7 1A0 1A6 9A9 5A0 1Ae 1An 1A7 1A0 1Ab 1A0 qA9 5A0 jA3 3A6",
    "3A7 6Ab 1A0 eA5 2A0 20A3 2A0 5A3 1A0 fA3 1A0 uA6 2A0 aA3 5A6 1A3 eU 1A3 uA6 3A3 rU 2A6 3A7",
    "uA9 iA3 1dA5 1U eA8 1nU 2Aj 3Aa 1aU 2Aa fU 1Ab sU 2Ab 1U 1Ai bU 5An vU 1An 2U 5Aq 1An 8Ac",
    "1Af 1Ac bAf 6Ag 2An 1Ah 8Am aAn bAj 1Ah fAg 1Ac rAf 1Aa 1A0 3A6 1A0 1hAb 2A0 iAa 1Ab 1A0 5Aa",
    "1Ab 2A0 pA9 2Ab 5Af 1Aa 2A8 2A7 1A8 2Af 1A0 3U 1A0 8U 2A0 2U 2A0 mU 1A0 7U 1A0 1U 3A0 4U 2A0",
    "1A6 1A0 7U 2A0 2U 2A0 3A7 1U 8A0 1U 4A0 2U 1A0 5U 2A0 lAa 1Ai 2Aj 1U 2A6 1A0 1A6 1U 1A0 6U",
    "4A0 2U 2A0 mU 1A0 7U 1A0 2U 1A0 2U 1A0 2U 2A0 1U 1A0 5U 4A0 2U 2A0 3U 3A9 1U 7A0 4U 1A0 1U",
    "7A0 fA9 1Aj 1U aA0 3U 1A0 7A6 1A0 1U 1A0 3U 1A0 mU 1A0 7U 1A0 2U 1A0 5U 2A0 aU 1A0 3U 1A0 3U",
    "2A0 1U fA0 1A6 3U 2A0 aAc 1A6 1U 7Ag 1Ai 6U 1A0 3U 1A0 8U 2A0 2U 2A0 mU 1A0 7U 1A0 2U 1A6",
    "1A0 4U 2A0 8A9 1U 2A0 2U 2A0 3U 7Am 1A0 2U 4A0 2U 1A0 3A9 2U 2A0 bA6 1Ab 6U aA0 2U 1A0 6U",
    "3A0 3U 1A0 4U 3A0 2U 1A0 1U 1A0 2U 3A0 2U 3A0 3U 3A0 8A7 1A0 3U 4A0 5U 3A0 3U 1A0 4U 2A9 1U",
    "6A0 1U eA7 1A0 cA6 8U 5Af 1A0 3Aj 1A0 8U 1A0 3U 1A0 nU 1A0 aAf 1A0 5U 2An 1A9 1A0 7U 1A0 3U",
    "1A0 4U 7A0 2U 1A9 2Ag 1U 2An 1U 2A0 2A9 2U 2A0 aU 7Ak 1A9 8Ah 1Af 1A0 2Aj 1A0 8U 1A0 3U 1A0",
    "nU 1A0 aU 1A0 5U 2A6 2A0 7U 1A0 3U 1A0 4U 7A0 2U 6An 1A0 1U 1A0 2A8 2U 2A0 aU 1A8 2Ao 1U cAi",
    "1Af 1A0 2Am 1A0 8U 1A0 3U 1A0 nAb 1A0 gAb 1Ai 2A9 1A0 6A9 1U 1A0 3U 1A0 4Ab 1Ah 1U 4Ah 3A0",
    "1Ah 7Ag 1A0 2A9 2U 2A0 aA9 6Ah 3A9 7U 1Am 1A3 2U 1A3 iU 3A3 oU 1A3 9U 1A3 1U 2A3 7U 3A3 1U",
    "4A3 6U 1A3 1U 1A3 8U 6Af aU 2A3 3U cA0 1mU 4A0 tU 11A0 2U 1A0 1U 1Ak 1A0 2Ak 1A0 1U 1Ak 1A0",
    "1Ak 6A0 4Ak 1A0 7Ak 1A0 3U 1A0 1U 1A0 1Ak 2A0 2Ak 1A0 dAk 1A0 3U 2A0 5U 1A0 1U 1A0 6Ao 1U",
    "1A0 aU 2A0 2Ac 2U wA1 20U 1A1 xA3 1A9 2U 4A1 rAb 4A1 6A3 1A1 1U 1A1 lA3 3A1 7A3 1A1 1A3 3U",
    "1A3 fU 1A9 1A3 1A7 2A9 3Aa 4Ab 2U 11A3 yA9 1A3 5A9 1A3 2A9 1A3 7A9 3A3 4A9 6A3 qA9 1sAa 4A9",
    "2A0 12U 1Ac 1U 5Ac 1U 2A0 13A5 2A7 2A0 1A7 1Ac 3A0 2iAa 5A0 1wAa 5A0 2aAa 6A3 7A7 1A3 1rA7",
    "1A3 1U 1A3 4U 2A3 7U 1A3 1U 1A3 4U 2A3 13A7 1A3 1U 1A3 4U 2A3 vA7 1A3 1U 1A3 4U 2A3 7U 1A3",
    "1U 1A3 4U 2A3 7A7 1A3 7U 1A3 nA7 1A3 vA7 1A3 1U 1A3 4U 2A3 7A7 1A3 13A7 1A3 jU 2Ab 2A7 2A3",
    "sU 3A7 qU 6A3 2dAg 1U 2Ag 6U 2Aa 1A3 hiAa 9A3 tU 3A3 29Af 8U 7A5 dAn 1A5 7An 1U 9An 1A5 nU",
    "9A5 kU cA5 dU 1A5 3U 1A5 2U cA3 2lA6 1U 2A3 aU 6A6 aU 6A3 fAn 1A3 aU 6A3 2gAj 1U 7A3 16A9 1U",
    "5Aa 1yU aA6 tAf 2U 1A6 cU 4A6 cU 4A6 1U 3A6 16U 2A6 5U bA7 16Aa 2U 4A7 qU 6A7 aAa 1U 3A7 2A6",
    "wA7 sU 2A7 2Aa 1rU 1Aa tU 2Aa bU 6Aa aU 6Aa eU 2Af fAm 2An eU 1dA8 24An 1U 1Aq 2A8 19An 2Aq",
    "1A9 17Ac 3A9 cAc 6Ab 1gU 8Ab 4A9 1kU 3A9 fU 3A9 1fAh 9Aq 2U 5Aj 17U 2Aj 3Ac 8U 8Aa zAc 4Ai",
    "1Af 2Ak 1U 5A6 30A7 2gA8 7A9 sAf fAi 4An 1Ah 1Ab 1Aa 1A8 2A0 4bA1 1A9 4A0 2iA9 6A0 mU 2A0 6U",
    "2A0 12U 2A0 6U 2A0 8U 1A0 1U 1A0 1U 1A0 1U 1A0 vU 2A0 1hU 1A0 fU 1A0 eU 2A0 6U 1A0 jU 2A0 3U",
    "1A0 9U 1A0 1bA3 1A0 nA5 1A3 6A5 5A6 2A7 2A5 1A7 7A5 5A9 1U 1Ae 4A0 7A5 1U 2A0 rU 1A7 5Ab 8U",
    "3A0 bA1 1A2 1A3 3A5 2A7 4Aa 3Ab 1Ad 1Af 3Ag 1Ai 1An 1U fA0 iA3 2A5 7A7 1A8 4A9 1U fA0 1lA3",
    "2A6 1A7 1A5 fA7 1A8 2A9 1Aa 3A0 1cA3 1A8 1A9 4Aa 1Ag 2U 4A0 2jA3 9A5 cA0 6qA5 eA0 1A3 1A0",
    "3dA3 1A5 1A3 uA5 1gA6 2A7 bA8 cAa 1Ab bAf 7Ah 4Ai 1A0 11A3 2Aq 3U mA0 bU lA0 3vA5 kA6 1A0",
    "46A5 aA0 28A3 8A5 8A0 kA6 2A5 2A7 1A3 1A0 2eA3 2A5 cA7 2A5 aA6 8A7 bA9 1Aa 2A6 2A7 gA8 1A9",
    "aAa 3A9 4Aa aAb 1Aa jAb 1Aa 1Ab 4Aa oAf 1A0 4Ab 1A0 4Ab 2A0 sAb 1A0 zAb 1A0 1Ab 1A0 4Ab 3A0",
    "1Aa 1A0 7Ab 2A0 7A5 eA0 vAb 3A0 oAb 1A0 eAb 1A7 7A8 4Ac 1A9 1Ac 1Ab 2A5 sA9 4A5 gA3 74A5",
    "e8A6 eA7 6A8 7A9 5A8 4A9 15Af 3A9 5Aa 5Af qU 2Af wU 1Am 1Af yAj 3Af cAk 1Af 8Ai 1Aj pAg 4Aj",
    "fAk 1A7 1bAn 1A7 1bAn 1A8 dA9 3Aa 1A9 3A8 4A9 6Aa 2A7 2zAa 7Ac 2U 5A7 19U 1Ac 1U 5Ac 1U 2A7",
    "1iAc 2U 7A7 1Ab 1U eAb 1A7 nU 9A7 7U 1A7 7U 1A7 7U 1A7 7U 1A7 7U 1A7 7U 1A7 7U 1A7 7U 1A9",
    "wA7 oA9 4A7 2A9 jAa 1Ac aAf 7Ah 2Ai 5Aj 5Ak 1Am 3An bU yA3 qU 1A3 2hU cA3 5yU qA3 cAp 4A0",
    "1kA3 3A5 3A3 1A0 1U 1A0 2cA5 2U 2A0 6A5 2A0 2mA5 1U 5A0 14A9 1Ai 1Aj 1U 1A0 2mU 1A0 gA3 oAb",
    "3Am 5A7 gA9 kAq 2U 9Ap 1A5 gA0 tA6 2U 1A0 10Aa cA6 1A5 fA0 sA6 2A7 1A0 1eA5 fA0 cA6 4A0 1bAl",
    "1A0 3bA6 4A0 2rA6 2A0 vA6 1A3 52uAm aA6 1sA0 g4mA7 mA9 8Aa 8Ac 1Ag 9Ai lAj 5Am dAn 3A3 wdU",
    "3A3 iA5 2A3 gA5 1A3 cA5 1A3 3A5 1A3 1U 9Aa 1cA9 8cU kA9 wAb 2A9 iAc 8A9 sAf 6Ag 1Ac 1Aa 2gU",
    "8A7 nA8 4A9 5A8 2A9 2zAb 2Ag 1Ab 2Ac 2Af cAb aAc 1Af 3Ah 1Aj 1Af 2Ag 6Aj 2Ak 6An 2Ak 5Am 4Aq",
    "3U 2An 2U 1An 1U 1An 5Aq 3U lAn 3Am 2Af 1Ac 2Ab 1A9 5A7 18Am 1U 3Aa aU 6A8 1kU 8A9 1xAh 1U",
    "8A9 cU 6Aa sAg 2Aj 2A9 2cU bA9 1Aa tU 3Aa 26U 1Aa bU 4Aa 2Af vU 1A9 1jU 9A9 eU 2A9 aU 2A9",
    "4Aa sAf 4Aa 1vU oAa 5Ac nU aAb 6U 2Ab 6U 2Ab 6U 9Ab 7U 1Ab 7U 1Af 1cAg 4Af 2Ak 2Am 4U 4Ag",
    "28Aa 1aU 2Aa aU 6A1 8mcU cAa nU 4Aa 1dU 4A1 1kwA0 566Ac 2A5 1nAa 3U 2A7 2yU 12A0 7U cA0 5U",
    "5A3 1A0 pU 1A0 5U 1A0 1U 1A0 2U 1A0 2U 1A0 30Ab gAn 1U gA0 a5An gA0 1sU 2A0 1iU 7An 1A4 wA0",
    "cA5 1A6 1An 2A5 gA7 aU 6A0 4A9 3Af 7Ag 2A0 lA5 2A6 2A0 aU 1A0 jU 1A0 4U 4A0 3A5 1A0 1U 1A0",
    "3rU 2A0 1U 1A0 2mA5 2A0 2mU 3A0 6U 2A0 6U 2A0 6U 2A0 3U 3A0 7U 1A0 7U aA3 3A2 1A0 3A6 cU 1A6",
    "qU 1A6 jU 1A6 2U 1A6 fU 2A6 eU yA6 3fU 5A6 3U 4A6 19U 3A6 9A7 23Af 2Ah 2U 1A9 cAm 1U 3Af 1U",
    "1bA9 1aU 3mA9 tU 3A9 1dU fAf sU 4A4 vAf 1A4 4U 9Ai 3A4 rU 5Af 17U 5A6 uU 1A6 1A7 10U 4A7 eU",
    "16A4 12A6 2A4 12A6 28U 2A6 aU 6Ah 10U 4Ah 10U 4Af 14U 8Af 1gU bAf 1An bU 1An fU 1An 7U 1An",
    "2U 1An bU 1An fU 1An 7U 1An 2U 3Aq 1gU cAf 8nU 9Af mU aAf 8U oAn 6U 1An 16U 1An 9U 1xA6 6U",
    "2A6 1U 1A6 18U 1A6 2U 3A6 1U 2A6 1Aa mU 1Aa 9Af 1rU 8Af 9U 1cAg jU 1Ag 2U 5Ag 5A8 qAa 2U 3A8",
    "1A9 qU 5A9 1U 1sAc 1kU 4Ag 2Ac 2Ag gU 2Ag 1aA7 4U 1A7 2U 5A7 8U 1A7 3U 1A7 rAj 2U 2A7 3U 4A7",
    "9Aj 1U 7A7 9U 7Aa wAf wU wAf 13U 4Af cU 9Aa 1iU 3Aa tU 2Aa rU 5Aa 8Af iU 7Af 4U cAf 7U 28Aa",
    "21U 1jAg 1fU dAg 1fU 7Ag 6Aj 14U 8Aj aU 6Aq 12U 3Aq tU 8Aq 2U 5sAa vU 1Am 16U 1Am 3U 2Am 2U",
    "gAq 3U 1jAq 1Ao 3Aj 14U 8Aj 16U mAn qU 12Am sU kAk nU 9Ab 26U 4Ab uAn 6U 9Af 1Aa 1uAn 1U aAj",
    "1U 2Ac pU 7Ac aU 6Ac 1hU 1Ac eAj 3Am 1U 8Af 13U 9Ac 21Ag 4Af 1Am 2Ac aAf 1Ag 5U 1Af kU bAf",
    "iU 1Af 17Ah 1Ao 3U 1qAg 7U 1Ag 1U 1Ag 4U 1Ag fU 1Ag bU 6Af 1nU 5Af aU 6Ag 1Af 3U 1Af 8U 2Af",
    "2U 2Af mU 1Af 7U 1Af 2U 1Af 5U 1Aj 1Af 9U 2Af 2U 2Af 3U 2Ag 1U 6Af 1U 5Af 7U 2Af 7U 3Af 5U",
    "bAq aU 1Aq 1U 2Aq 1U 1Aq 12U 1Aq aU 1Aq 1U 2Aq 1U 1Aq 4U 1Aq aU 1Aq 2U 8Aq 2U tAh 2iAm 1Ah",
    "1U 1Ah 1Aj 1Ak 1Am 2U uAf 20U 8Af aU 4mAf 1iU 2Af iAg kU yAf 1xU bAf aU 6Ah dU jAc 1kAk 1An",
    "1U 6Ac aU 6Aq kU sAg qAj 1U 2Ag fU 4Ag gAn 7U 55Aj 1oU 2sAf 2bU cAf 1Am 7U 2Am 1U 2Am 8U 1Am",
    "2U 1Am uU 1Am 2U 2Am cU 9Am aU 1yAk 8U 2Ak 1aU 2Ak bU rAi 20U 8Ai 1gAk 2Ai nAj 1Ai 5U dAn",
    "gAf 1lU 7Ao aU 52Aq yU eAq aU 6Ah 9U 1Ah 19U 1Ah eU aAh tU 3Ah wU 2Ah mU 1Ah eU 21Ai 7U 1Ai",
    "2U 1Ai 18U 3Ai 1U 1Ai 2U 1Ai 9U 8Ai aU 6Aj 6U 1Aj 2U 1Aj 11U 1Aj 2U 1Aj 6U 7Aj aU 8mAj pU",
    "7Ao hU 1Ao 15U 3Ao sAq 1U 2dAm 1U fAk 1eU dAk 1A8 ofAf 16Ag 1U 2uA8 2rAf cU 1A8 4Af 1U bAg",
    "5gU 218An 2rU dAa trAo 1Ak 9Ao tU aAq 32zU 5Ag g7U 5a1Aq 1mU 1c6Ab ftU 7Af vU 1Af aU 4Af 2An",
    "27U 1An aU 6Af uU 2Af 6U aAf 1yU aAf aU 1Af 7U 1Af lU 5Af jU c0Aq 1mU 5iAj 2jU 2tAc 1xAk 6U",
    "4Ak 1Ac 1bAk 9U 7Ac hU 1sAh 1Ai 1Ak 2Am 1U bAm 2U eAh 4q5Aj 5Ak 6U 8Ah kzAm dfU 15Aq 1Am 9U",
    "6w7An 4U 1An 7U 1An 2U 1Ab 2Ai 7xAn 4U fAo 1U tAk 3U 2Ao 1U eAk 4U 8Ai b0U 1s4Af 2zU 5Af dU",
    "3Af 9U 7Af aU 2Af 8U 318Aq 6yU 6Aq c4U 24An 1aU 2An nU 9An 38U 1oA4 6uU aA4 13U 2A9 1A4 50Ag",
    "bAn 2U lA7 1yU 3eAo kU cAj kU cA6 2fU 9A8 iAj 7U 3rA4 2dU 1A4 1zU 1A4 2U 2A4 1U 2A4 2U 2A4",
    "4U 1A4 cU 1A4 1U 1A4 4A6 1A4 2U 1A4 1tU 1A4 4U 2A4 8U 1A4 7U 1A4 sU 1A4 4U 1A4 5U 1A4 1U 3A4",
    "7U 1A4 9eA7 2U 2A4 82A8 2U 2A4 1eAg i4U fAg 5U 1Ag fU uoAn vU 6Ao 6U 5xAh 7U 1Ah hU 2Ah 7U",
    "1Ah 2U 1Ah 5U 5Ao 1qU xAo 1U 34Ak 19U 3Ak eU 2Ak aU 4Ak 2U 8wAn vU hAk 1mU 5Ak 1U cwAo 16U",
    "5yAq 17U 4Aq 1U dcAn 7U 1An 4U 1An 2U 1An fU 1Af 5hU 2Af gU 15Ah 23Ak 1U 4Ah aU 4Ah 2U ltAj",
    "1wU 24Ak 1pU 5eAc 4U 1Ac rU 1Ac 2U 1Ac 1U 2Ac 1U 1Ac aU 1Ac 4U 1Ac 1U 1Ac 1U 6Ac 1U 4Ac 1U",
    "1Ac 1U 1Ac 1U 1Ac 3U 1Ac 2U 1Ac 1U 2Ac 1U 1Ac 1U 1Ac 1U 1Ac 1U 1Ac 1U 1Ac 2U 1Ac 1U 2Ac 4U",
    "1Ac 7U 1Ac 4U 1Ac 4U 1Ac 1U 1Ac aU 1Ac hU 5Ac 3U 1Ac 5U 1Ac hU 1gAc 2U 7iA9 18U 4A9 2sU cAb",
    "fU 2Ab eAf 1U 1Ab fU 1Ab fAf mU aAa bAf 2Am 3Aa vAj 1Ab 1Aa 1Ab bAa 1Ab 1Aa 1Ab 2Aa 1Ab 3Aa",
    "1Ab 3Aa 5Ab 8Aa 1Ab 7Aa 1Ab aAc 2Ak 1Am 3Ab 9Aa 1Ab 1Aa 2Ab 2Aa 1Ab aAa 4Ab 2Aa 1Ab aAh iAm",
    "1U 1kAb qAa 1Ab 2U dAa yAb 9Ah 1U 4Aa 9U 7Ab 2U eAi 6U 4aAb xAf cAg 3Ab 6Af 1Ab 1yAf 1Ag 2Ab",
    "kAf cAb 11Af 1Ab 5Af 4Ag 5Af cAb hAf 7Ag 8Ab 1rAf 1Ab 1Af 1Ab 52Af 1Ab 4Af 2Ag 1Ab 1qAf 2Ac",
    "4Af 7Ag 5Ab oAf iAh 1Af 15Ah 1Af 2eAb 5Ac 1Ab gAc 1Ab 3Ac 1Ab 1Ac 1Ab 1Ac 1Ab 1Ac 1Ab 3Ac",
    "1Ab 6Ac 2Ab 4Ac 1Ab 1Ac 2Ab 4Ac 1Ab cAf 2Ag 2Ab bAf 1cAb 1yAf aAg 1Ah 2Ai 2Ak 1Am 2U 4Ao 1An",
    "3Af dU 3Af 4Ah 3Ai 2Aj 1Ak 1Am 2U 3Ab 38Ao 3U 4Ao 5Af 2dAj 4Ao 1U 6Ak cU 4An 1U fAf cU 4Af",
    "1kU 8Af aU 6Af 14U 8Af uU 2Am 2Aq aU 4Aq 2U 1qAi cAm 1Ak 3Ag 9Ah 6Ai 1Ah 8Ai 8Ah 1Ai 2Ah cAk",
    "1Ah cAi 1Aj 3Ah fAi dAj 5Ak 1Am 1Aj 4Am 2An 1Aj 1Ak 1Aj 4Ag 5Ah dAi 6Aj bAm 2Ak 6Am 3Ak 2Aj",
    "aAk 6Ag 1Aj 2Ak 8Am 1An 1Ak 3Ai nAj pAk 2cU cAj eU 2Ak 4Am 1Ao 3Ak 3An 2U 3Ak 3Am 4Ao 2Aq 1U",
    "5Aq 1Ak 6Am jAn 4Ao 3Am 7An 4Ao 3Aq 1Ao 1Am 3An 3Aq 1U 7Ao 2Am 7An 3Ao 2Aq 1U 2Aq 1An 8Ao",
    "1Aq 1U 6An 7Ao 2U 7Am 43U 1Am 1jAq 11Am aU skA1 2A4 wyfAm 7An 2U wAa 379An 4Ao 1U 6Ab 66U",
    "2Ag 4g2U eAi 5rlU fAp haU 1wiA4 f2U 15sA1 2Am 3t7U 5Ao 38gU 17imA1 2U 1ekeA1 2U 1ekeA1 2U",
    "1ekeA1 2U 1ekeA1 2U 1ekeA1 2U 1ekeA1 2U 1ekeA1 2U 1ekeA1 2U 1ekeA1 2U 1ekeA1 2U 1A4 1U uA4",
    "2oU 3kA6 6oU 1e6mA1"]

/-- The versions in their order, each with its label in the table and its names. -/
def ageNames : List (String × List String) :=
  [("A0", ["1.1", "v11"]), ("A1", ["2.0", "v20"]), ("A2", ["2.1", "v21"]), ("A3", ["3.0", "v30"]),
   ("A4", ["3.1", "v31"]), ("A5", ["3.2", "v32"]), ("A6", ["4.0", "v40"]), ("A7", ["4.1", "v41"]),
   ("A8", ["5.0", "v50"]), ("A9", ["5.1", "v51"]), ("Aa", ["5.2", "v52"]), ("Ab", ["6.0", "v60"]),
   ("Ac", ["6.1", "v61"]), ("Ad", ["6.2", "v62"]), ("Ae", ["6.3", "v63"]), ("Af", ["7.0", "v70"]),
   ("Ag", ["8.0", "v80"]), ("Ah", ["9.0", "v90"]), ("Ai", ["10.0", "v100"]),
   ("Aj", ["11.0", "v110"]), ("Ak", ["12.0", "v120"]), ("Al", ["12.1", "v121"]),
   ("Am", ["13.0", "v130"]), ("An", ["14.0", "v140"]), ("Ao", ["15.0", "v150"]),
   ("Ap", ["15.1", "v151"]), ("Aq", ["16.0", "v160"])]

/-- The labels of a version and of those before it. -/
def agesUpTo (name : String) : List (String × List String) → Option (List String)
  | [] => none
  | (label, names) :: rest =>
    if names.contains name then some [label] else (agesUpTo name rest).map (label :: ·)

/-- The ranges of the characters that a version has. -/
def ageRanges? (name : String) : Option (List (Nat × Nat)) :=
  (agesUpTo name ageNames).map fun labels =>
    (Table.runs ageTable).filterMap fun (lo, hi, label) =>
      if labels.contains label then some (lo, hi) else none

end LintVerdict.Unicode
