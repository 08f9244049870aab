import LintVerdict.Unicode.Table

/-!
# General categories

Every character has one of thirty general categories, written with two letters.

## Main definitions

* `categories?`: the categories that a category's or group's name stands for.
* `categoryRanges`: the ranges of the characters of some categories.
-/

namespace LintVerdict.Unicode

/-- The written form of the categories, see `Table.runs`. -/
def categoryTable : List String :=
  [
    "0Cc wZs 1Po 3Sc 1Po 3Ps 1Pe 1Po 1Sm 1Po 1Pd 1Po 2Nd aPo 2Sm 3Po 2Lu qPs 1Po 1Pe 1Sk 1Pc 1Sk",
    "1Ll qPs 1Sm 1Pe 1Sm 1Cc xZs 1Po 1Sc 4So 1Po 1Sk 1So 1Lo 1Pi 1Sm 1Cf 1So 1Sk 1So 1Sm 1No 2Sk",
    "1Ll 1Po 2Sk 1No 1Lo 1Pf 1No 3Po 1Lu nSm 1Lu 7Ll oSm 1Ll 8Lu 1Ll 1Lu 1Ll 1Lu 1Ll 1Lu 1Ll 1Lu",
    "1Ll 1Lu 1Ll 1Lu 1Ll 1Lu 1Ll 1Lu 1Ll 1Lu 1Ll 1Lu 1Ll 1Lu 1Ll 1Lu 1Ll 1Lu 1Ll 1Lu 1Ll 1Lu 1Ll",
    "1Lu 1Ll 1Lu 1Ll 1Lu 1Ll 1Lu 1Ll 1Lu 1Ll 1Lu 1Ll 1Lu 1Ll 1Lu 1Ll 1Lu 1Ll 1Lu 1Ll 1Lu 1Ll 1Lu",
    "1Ll 2Lu 1Ll 1Lu 1Ll 1Lu 1Ll 1Lu 1Ll 1Lu 1Ll 1Lu 1Ll 1Lu 1Ll 1Lu 1Ll 2Lu 1Ll 1Lu 1Ll 1Lu 1Ll",
    "1Lu 1Ll 1Lu 1Ll 1Lu 1Ll 1Lu 1Ll 1Lu 1Ll 1Lu 1Ll 1Lu 1Ll 1Lu 1Ll 1Lu 1Ll 1Lu 1Ll 1Lu 1Ll 1Lu",
    "1Ll 1Lu 1Ll 1Lu 1Ll 1Lu 1Ll 1Lu 1Ll 1Lu 1Ll 1Lu 1Ll 1Lu 1Ll 1Lu 1Ll 1Lu 2Ll 1Lu 1Ll 1Lu 1Ll",
    "3Lu 2Ll 1Lu 1Ll 1Lu 2Ll 1Lu 3Ll 2Lu 4Ll 1Lu 2Ll 1Lu 3Ll 3Lu 2Ll 1Lu 2Ll 1Lu 1Ll 1Lu 1Ll 1Lu",
    "2Ll 1Lu 1Ll 2Lu 1Ll 1Lu 2Ll 1Lu 3Ll 1Lu 1Ll 1Lu 2Ll 2Lo 1Lu 1Ll 3Lo 4Lu 1Lt 1Ll 1Lu 1Lt 1Ll",
    "1Lu 1Lt 1Ll 1Lu 1Ll 1Lu 1Ll 1Lu 1Ll 1Lu 1Ll 1Lu 1Ll 1Lu 1Ll 1Lu 1Ll 1Lu 1Ll 2Lu 1Ll 1Lu 1Ll",
    "1Lu 1Ll 1Lu 1Ll 1Lu 1Ll 1Lu 1Ll 1Lu 1Ll 1Lu 1Ll 1Lu 1Ll 2Lu 1Lt 1Ll 1Lu 1Ll 1Lu 3Ll 1Lu 1Ll",
    "1Lu 1Ll 1Lu 1Ll 1Lu 1Ll 1Lu 1Ll 1Lu 1Ll 1Lu 1Ll 1Lu 1Ll 1Lu 1Ll 1Lu 1Ll 1Lu 1Ll 1Lu 1Ll 1Lu",
    "1Ll 1Lu 1Ll 1Lu 1Ll 1Lu 1Ll 1Lu 1Ll 1Lu 1Ll 1Lu 1Ll 1Lu 1Ll 1Lu 1Ll 1Lu 1Ll 1Lu 1Ll 1Lu 1Ll",
    "1Lu 1Ll 1Lu 1Ll 1Lu 1Ll 1Lu 1Ll 1Lu 1Ll 7Lu 2Ll 1Lu 2Ll 2Lu 1Ll 1Lu 4Ll 1Lu 1Ll 1Lu 1Ll 1Lu",
    "1Ll 1Lu 1Ll 1xLo 1Ll rLm iSk 4Lm cSk eLm 5Sk 7Lm 1Sk 1Lm 1Sk hMn 34Lu 1Ll 1Lu 1Ll 1Lm 1Sk",
    "1Lu 1Ll 1Cn 2Lm 1Ll 3Po 1Lu 1Cn 4Sk 2Lu 1Po 1Lu 3Cn 1Lu 1Cn 1Lu 2Ll 1Lu hCn 1Lu 9Ll zLu 1Ll",
    "2Lu 3Ll 3Lu 1Ll 1Lu 1Ll 1Lu 1Ll 1Lu 1Ll 1Lu 1Ll 1Lu 1Ll 1Lu 1Ll 1Lu 1Ll 1Lu 1Ll 1Lu 1Ll 1Lu",
    "1Ll 1Lu 1Ll 5Lu 1Ll 1Sm 1Lu 1Ll 1Lu 2Ll 2Lu 1fLl 1cLu 1Ll 1Lu 1Ll 1Lu 1Ll 1Lu 1Ll 1Lu 1Ll",
    "1Lu 1Ll 1Lu 1Ll 1Lu 1Ll 1Lu 1Ll 1Lu 1Ll 1Lu 1Ll 1Lu 1Ll 1Lu 1Ll 1Lu 1Ll 1Lu 1Ll 1Lu 1Ll 1Lu",
    "1Ll 1So 1Mn 5Me 2Lu 1Ll 1Lu 1Ll 1Lu 1Ll 1Lu 1Ll 1Lu 1Ll 1Lu 1Ll 1Lu 1Ll 1Lu 1Ll 1Lu 1Ll 1Lu",
    "1Ll 1Lu 1Ll 1Lu 1Ll 1Lu 1Ll 1Lu 1Ll 1Lu 1Ll 1Lu 1Ll 1Lu 1Ll 1Lu 1Ll 1Lu 1Ll 1Lu 1Ll 1Lu 1Ll",
    "1Lu 1Ll 1Lu 1Ll 1Lu 1Ll 1Lu 1Ll 1Lu 1Ll 1Lu 1Ll 1Lu 2Ll 1Lu 1Ll 1Lu 1Ll 1Lu 1Ll 1Lu 1Ll 1Lu",
    "1Ll 1Lu 1Ll 2Lu 1Ll 1Lu 1Ll 1Lu 1Ll 1Lu 1Ll 1Lu 1Ll 1Lu 1Ll 1Lu 1Ll 1Lu 1Ll 1Lu 1Ll 1Lu 1Ll",
    "1Lu 1Ll 1Lu 1Ll 1Lu 1Ll 1Lu 1Ll 1Lu 1Ll 1Lu 1Ll 1Lu 1Ll 1Lu 1Ll 1Lu 1Ll 1Lu 1Ll 1Lu 1Ll 1Lu",
    "1Ll 1Lu 1Ll 1Lu 1Ll 1Lu 1Ll 1Lu 1Ll 1Lu 1Ll 1Lu 1Ll 1Lu 1Ll 1Lu 1Ll 1Lu 1Ll 1Lu 1Ll 1Lu 1Ll",
    "1Lu 1Ll 1Lu 1Ll 1Lu 1Ll 1Lu 1Ll 1Lu 1Ll 1Lu 1Ll 1Lu 1Ll 1Lu 1Ll 1Lu 1Ll 1Lu 1Ll 1Lu 1Ll 1Lu",
    "1Ll 1Lu 1Ll 1Lu 1Ll 1Lu 1Ll 1Cn 1Lu 12Cn 2Lm 1Po 6Ll 15Po 1Pd 1Cn 2So 2Sc 1Cn 1Mn 19Pd 1Mn",
    "1Po 1Mn 2Po 1Mn 2Po 1Mn 1Cn 8Lo rCn 4Lo 4Po 2Cn bCf 6Sm 3Po 2Sc 1Po 2So 2Mn bPo 1Cf 1Po 3Lo",
    "wLm 1Lo aMn lNd aPo 4Lo 2Mn 1Lo 2rPo 1Lo 1Mn 7Cf 1So 1Mn 6Lm 2Mn 2So 1Mn 4Lo 2Nd aLo 3So 2Lo",
    "1Po eCn 1Cf 1Lo 1Mn 1Lo uMn rCn 2Lo 2hMn bLo 1Cn eNd aLo xMn 9Lm 2So 1Po 3Lm 1Cn 2Mn 1Sc 2Lo",
    "mMn 4Lm 1Mn 9Lm 1Mn 3Lm 1Mn 5Cn 2Po fCn 1Lo pMn 3Cn 2Po 1Cn 1Lo bCn 5Lo oSk 1Lo 6Cn 1Cf 2Cn",
    "5Mn 9Lo 15Lm 1Mn oCf 1Mn wMc 1Lo 1iMn 1Mc 1Mn 1Lo 1Mc 3Mn 8Mc 4Mn 1Mc 2Lo 1Mn 7Lo aMn 2Po",
    "2Nd aPo 1Lm 1Lo fMn 1Mc 2Cn 1Lo 8Cn 2Lo 2Cn 2Lo mCn 1Lo 7Cn 1Lo 1Cn 3Lo 4Cn 2Mn 1Lo 1Mc 3Mn",
    "4Cn 2Mc 2Cn 2Mc 2Mn 1Lo 1Cn 8Mc 1Cn 4Lo 2Cn 1Lo 3Mn 2Cn 2Nd aLo 2Sc 2No 6So 1Sc 1Lo 1Po 1Mn",
    "1Cn 2Mn 2Mc 1Cn 1Lo 6Cn 4Lo 2Cn 2Lo mCn 1Lo 7Cn 1Lo 2Cn 1Lo 2Cn 1Lo 2Cn 2Mn 1Cn 1Mc 3Mn 2Cn",
    "4Mn 2Cn 2Mn 3Cn 3Mn 1Cn 7Lo 4Cn 1Lo 1Cn 7Nd aMn 2Lo 3Mn 1Po 1Cn aMn 2Mc 1Cn 1Lo 9Cn 1Lo 3Cn",
    "1Lo mCn 1Lo 7Cn 1Lo 2Cn 1Lo 5Cn 2Mn 1Lo 1Mc 3Mn 5Cn 1Mn 2Mc 1Cn 1Mc 2Mn 1Cn 2Lo 1Cn fLo 2Mn",
    "2Cn 2Nd aPo 1Sc 1Cn 7Lo 1Mn 6Cn 1Mn 1Mc 2Cn 1Lo 8Cn 2Lo 2Cn 2Lo mCn 1Lo 7Cn 1Lo 2Cn 1Lo 5Cn",
    "2Mn 1Lo 1Mc 1Mn 1Mc 1Mn 4Cn 2Mc 2Cn 2Mc 2Mn 1Cn 7Mn 2Mc 1Cn 4Lo 2Cn 1Lo 3Mn 2Cn 2Nd aSo 1Lo",
    "1No 6Cn aMn 1Lo 1Cn 1Lo 6Cn 3Lo 3Cn 1Lo 4Cn 3Lo 2Cn 1Lo 1Cn 1Lo 2Cn 3Lo 2Cn 3Lo 3Cn 3Lo cCn",
    "4Mc 2Mn 1Mc 2Cn 3Mc 3Cn 1Mc 3Mn 1Cn 2Lo 1Cn 6Mc 1Cn eNd aNo 3So 6Sc 1So 1Cn 5Mn 1Mc 3Mn 1Lo",
    "8Cn 1Lo 3Cn 1Lo nCn 1Lo gCn 2Mn 1Lo 1Mn 3Mc 4Cn 1Mn 3Cn 1Mn 4Cn 7Mn 2Cn 1Lo 3Cn 2Lo 1Cn 2Lo",
    "2Mn 2Cn 2Nd aCn 7Po 1No 7So 1Lo 1Mn 1Mc 2Po 1Lo 8Cn 1Lo 3Cn 1Lo nCn 1Lo aCn 1Lo 5Cn 2Mn 1Lo",
    "1Mc 1Mn 1Mc 5Cn 1Mn 1Mc 2Cn 1Mc 2Mn 2Cn 7Mc 2Cn 6Lo 2Cn 1Lo 2Mn 2Cn 2Nd aCn 1Lo 2Mc 1Cn cMn",
    "2Mc 2Lo 9Cn 1Lo 3Cn 1Lo 15Mn 2Lo 1Mc 3Mn 4Cn 1Mc 3Cn 1Mc 3Mn 1Lo 1So 1Cn 4Lo 3Mc 1No 7Lo 3Mn",
    "2Cn 2Nd aNo 9So 1Lo 6Cn 1Mn 1Mc 2Cn 1Lo iCn 3Lo oCn 1Lo 9Cn 1Lo 1Cn 2Lo 7Cn 3Mn 1Cn 4Mc 3Mn",
    "3Cn 1Mn 1Cn 1Mc 8Cn 6Nd aCn 2Mc 2Po 1Cn cLo 1cMn 1Lo 2Mn 7Cn 4Sc 1Lo 6Lm 1Mn 8Po 1Nd aPo 2Cn",
    "11Lo 2Cn 1Lo 1Cn 1Lo 5Cn 1Lo oCn 1Lo 1Cn 1Lo aMn 1Lo 2Mn 9Lo 1Cn 2Lo 5Cn 1Lm 1Cn 1Mn 7Cn 1Nd",
    "aCn 2Lo 4Cn wLo 1So 3Po fSo 1Po 1So 3Mn 2So 6Nd aNo aSo 1Mn 1So 1Mn 1So 1Mn 1Ps 1Pe 1Ps 1Pe",
    "1Mc 2Lo 8Cn 1Lo 10Cn 4Mn eMc 1Mn 5Po 1Mn 2Lo 5Mn bCn 1Mn 10Cn 1So 8Mn 1So 6Cn 1So 2Po 5So",
    "4Po 2Cn 11Lo 17Mc 2Mn 4Mc 1Mn 6Mc 1Mn 2Mc 2Mn 2Lo 1Nd aPo 6Lo 6Mc 2Mn 2Lo 4Mn 3Lo 1Mc 3Lo",
    "2Mc 7Lo 3Mn 4Lo dMn 1Mc 2Mn 2Mc 6Mn 1Lo 1Mc 1Nd aMc 3Mn 1So 2Lu 12Cn 1Lu 1Cn 5Lu 1Cn 2Ll",
    "17Po 1Lm 1Ll 3Lo 95Cn 1Lo 4Cn 2Lo 7Cn 1Lo 1Cn 1Lo 4Cn 2Lo 15Cn 1Lo 4Cn 2Lo xCn 1Lo 4Cn 2Lo",
    "7Cn 1Lo 1Cn 1Lo 4Cn 2Lo fCn 1Lo 1lCn 1Lo 4Cn 2Lo 1vCn 2Mn 3Po 9No kCn 3Lo gSo aCn 6Lu 2eCn",
    "2Ll 6Cn 2Pd 1Lo h8So 1Po 1Lo hZs 1Lo qPs 1Pe 1Cn 3Lo 23Po 3Nl 3Lo 8Cn 7Lo iMn 3Mc 1Cn 9Lo",
    "jMn 2Mc 1Po 2Cn 9Lo iMn 2Cn cLo dCn 1Lo 3Cn 1Mn 2Cn cLo 1gMn 2Mc 1Mn 7Mc 8Mn 1Mc 2Mn bPo 3Lm",
    "1Po 3Sc 1Lo 1Mn 1Cn 2Nd aCn 6No aCn 6Po 6Pd 1Po 4Mn 3Cf 1Mn 1Nd aCn 6Lo zLm 1Lo 1hCn 7Lo 5Mn",
    "2Lo yMn 1Lo 1Cn 5Lo 1yCn aLo vCn 1Mn 3Mc 4Mn 2Mc 3Cn 4Mc 2Mn 1Mc 6Mn 3Cn 4So 1Cn 3Po 2Nd aLo",
    "uCn 2Lo 5Cn bLo 18Cn 4Lo qCn 6Nd aNo 1Cn 3So yLo nMn 2Mc 2Mn 1Cn 2Po 2Lo 1hMc 1Mn 1Mc 1Mn",
    "7Cn 1Mn 1Mc 1Mn 1Mc 2Mn 8Mc 6Mn aCn 2Mn 1Nd aCn 6Nd aCn 6Po 7Lm 1Po 6Cn 2Mn eMe 1Mn gCn 1dMn",
    "4Mc 1Lo 1bMn 1Mc 1Mn 5Mc 1Mn 1Mc 5Mn 1Mc 2Lo 8Cn 1Po 2Nd aPo 7So aMn 9So 9Po 3Mn 2Mc 1Lo uMc",
    "1Mn 4Mc 2Mn 2Mc 1Mn 3Lo 2Nd aLo 18Mn 1Mc 1Mn 2Mc 3Mn 1Mc 1Mn 3Mc 2Cn 8Po 4Lo 10Mc 8Mn 8Mc",
    "2Mn 2Cn 3Po 5Nd aCn 3Lo 3Nd aLo uLm 6Po 2Ll 9Lu 1Ll 1Cn 5Lu 17Cn 2Lu 3Po 8Cn 8Mn 3Po 1Mn dMc",
    "1Mn 7Lo 4Mn 1Lo 6Mn 1Lo 2Mc 1Mn 2Lo 1Cn 5Ll 18Lm 1rLl dLm 1Ll yLm 11Mn 1sLu 1Ll 1Lu 1Ll 1Lu",
    "1Ll 1Lu 1Ll 1Lu 1Ll 1Lu 1Ll 1Lu 1Ll 1Lu 1Ll 1Lu 1Ll 1Lu 1Ll 1Lu 1Ll 1Lu 1Ll 1Lu 1Ll 1Lu 1Ll",
    "1Lu 1Ll 1Lu 1Ll 1Lu 1Ll 1Lu 1Ll 1Lu 1Ll 1Lu 1Ll 1Lu 1Ll 1Lu 1Ll 1Lu 1Ll 1Lu 1Ll 1Lu 1Ll 1Lu",
    "1Ll 1Lu 1Ll 1Lu 1Ll 1Lu 1Ll 1Lu 1Ll 1Lu 1Ll 1Lu 1Ll 1Lu 1Ll 1Lu 1Ll 1Lu 1Ll 1Lu 1Ll 1Lu 1Ll",
    "1Lu 1Ll 1Lu 1Ll 1Lu 1Ll 1Lu 1Ll 1Lu 1Ll 1Lu 1Ll 1Lu 1Ll 1Lu 1Ll 1Lu 1Ll 1Lu 1Ll 1Lu 1Ll 1Lu",
    "1Ll 1Lu 1Ll 1Lu 1Ll 1Lu 1Ll 1Lu 1Ll 1Lu 1Ll 1Lu 1Ll 1Lu 1Ll 1Lu 1Ll 1Lu 1Ll 1Lu 1Ll 1Lu 1Ll",
    "1Lu 1Ll 1Lu 1Ll 1Lu 1Ll 1Lu 1Ll 1Lu 1Ll 1Lu 1Ll 1Lu 1Ll 1Lu 1Ll 1Lu 1Ll 1Lu 1Ll 1Lu 1Ll 1Lu",
    "1Ll 1Lu 1Ll 1Lu 1Ll 1Lu 1Ll 9Lu 1Ll 1Lu 1Ll 1Lu 1Ll 1Lu 1Ll 1Lu 1Ll 1Lu 1Ll 1Lu 1Ll 1Lu 1Ll",
    "1Lu 1Ll 1Lu 1Ll 1Lu 1Ll 1Lu 1Ll 1Lu 1Ll 1Lu 1Ll 1Lu 1Ll 1Lu 1Ll 1Lu 1Ll 1Lu 1Ll 1Lu 1Ll 1Lu",
    "1Ll 1Lu 1Ll 1Lu 1Ll 1Lu 1Ll 1Lu 1Ll 1Lu 1Ll 1Lu 1Ll 1Lu 1Ll 1Lu 1Ll 1Lu 1Ll 1Lu 1Ll 1Lu 1Ll",
    "1Lu 1Ll 1Lu 1Ll 1Lu 1Ll 1Lu 1Ll 1Lu 1Ll 1Lu 1Ll 1Lu 1Ll 1Lu 1Ll 1Lu 1Ll 1Lu 1Ll 1Lu 1Ll 1Lu",
    "1Ll 1Lu 1Ll 1Lu 1Ll 1Lu 1Ll 1Lu 1Ll 1Lu 1Ll 1Lu 1Ll 9Lu 8Ll 6Cn 2Lu 6Cn 2Ll 8Lu 8Ll 8Lu 8Ll",
    "6Cn 2Lu 6Cn 2Ll 8Cn 1Lu 1Cn 1Lu 1Cn 1Lu 1Cn 1Lu 1Ll 8Lu 8Ll eCn 2Ll 8Lt 8Ll 8Lt 8Ll 8Lt 8Ll",
    "5Cn 1Ll 2Lu 4Lt 1Sk 1Ll 1Sk 3Ll 3Cn 1Ll 2Lu 4Lt 1Sk 3Ll 4Cn 2Ll 2Lu 4Cn 1Sk 3Ll 8Lu 5Sk 3Cn",
    "2Ll 3Cn 1Ll 2Lu 4Lt 1Sk 2Cn 1Zs bCf 5Pd 6Po 2Pi 1Pf 1Ps 1Pi 2Pf 1Ps 1Pi 1Po 8Zl 1Zp 1Cf 5Zs",
    "1Po 9Pi 1Pf 1Po 4Pc 2Po 3Sm 1Ps 1Pe 1Po bSm 1Po 1Pc 1Po aZs 1Cf 5Cn 1Cf aNo 1Lm 1Cn 2No 6Sm",
    "3Ps 1Pe 1Lm 1No aSm 3Ps 1Pe 1Cn 1Lm dCn 3Sc xCn fMn dMe 4Mn 1Me 3Mn cCn fSo 2Lu 1So 4Lu 1So",
    "2Ll 1Lu 3Ll 2Lu 3Ll 1So 1Lu 1So 2Sm 1Lu 5So 6Lu 1So 1Lu 1So 1Lu 1So 1Lu 4So 1Ll 1Lu 4Ll 1Lo",
    "4Ll 1So 2Ll 2Lu 2Sm 5Lu 1Ll 4So 1Sm 1So 2Ll 1So 1No gNl zLu 1Ll 1Nl 4No 1So 2Cn 4Sm 5So 5Sm",
    "2So 4Sm 1So 2Sm 1So 2Sm 1So 7Sm 1So vSm 2So 2Sm 1So 1Sm 1So vSm 7gSo 8Ps 1Pe 1Ps 1Pe 1So kSm",
    "2So 7Ps 1Pe 1So 29Sm 1So uSm pSo 14Sm 6So 20Cn mSo bCn lNo 1oSo 26No mSo 53Sm 1So 9Sm 1So",
    "1iSm 8So 33Sm 1So 6wPs 1Pe 1Ps 1Pe 1Ps 1Pe 1Ps 1Pe 1Ps 1Pe 1Ps 1Pe 1Ps 1Pe 1No uSo 18Sm 5Ps",
    "1Pe 1Sm vPs 1Pe 1Ps 1Pe 1Ps 1Pe 1Ps 1Pe 1Ps 1Pe 1Sm gSo 74Sm 3nPs 1Pe 1Ps 1Pe 1Ps 1Pe 1Ps",
    "1Pe 1Ps 1Pe 1Ps 1Pe 1Ps 1Pe 1Ps 1Pe 1Ps 1Pe 1Ps 1Pe 1Ps 1Pe 1Sm 1rPs 1Pe 1Ps 1Pe 1Sm wPs 1Pe",
    "1Sm 76So 1cSm lSo 2Sm 6So 13Cn 2So wCn 1So 2xLu 1cLl 1cLu 1Ll 1Lu 3Ll 2Lu 1Ll 1Lu 1Ll 1Lu",
    "1Ll 1Lu 4Ll 1Lu 1Ll 2Lu 1Ll 6Lm 2Lu 3Ll 1Lu 1Ll 1Lu 1Ll 1Lu 1Ll 1Lu 1Ll 1Lu 1Ll 1Lu 1Ll 1Lu",
    "1Ll 1Lu 1Ll 1Lu 1Ll 1Lu 1Ll 1Lu 1Ll 1Lu 1Ll 1Lu 1Ll 1Lu 1Ll 1Lu 1Ll 1Lu 1Ll 1Lu 1Ll 1Lu 1Ll",
    "1Lu 1Ll 1Lu 1Ll 1Lu 1Ll 1Lu 1Ll 1Lu 1Ll 1Lu 1Ll 1Lu 1Ll 1Lu 1Ll 1Lu 1Ll 1Lu 1Ll 1Lu 1Ll 1Lu",
    "1Ll 1Lu 1Ll 1Lu 1Ll 1Lu 1Ll 1Lu 1Ll 1Lu 1Ll 1Lu 1Ll 1Lu 1Ll 1Lu 1Ll 1Lu 1Ll 1Lu 1Ll 1Lu 1Ll",
    "1Lu 1Ll 1Lu 1Ll 1Lu 1Ll 1Lu 1Ll 1Lu 1Ll 1Lu 1Ll 1Lu 1Ll 1Lu 1Ll 2So 6Lu 1Ll 1Lu 1Ll 1Mn 3Lu",
    "1Ll 1Cn 5Po 4No 1Po 2Ll 12Cn 1Ll 1Cn 5Ll 1Cn 2Lo 1kCn 7Lm 1Po 1Cn eMn 1Lo nCn 9Lo 7Cn 1Lo",
    "7Cn 1Lo 7Cn 1Lo 7Cn 1Lo 7Cn 1Lo 7Cn 1Lo 7Cn 1Lo 7Cn 1Mn wPo 2Pi 1Pf 1Pi 1Pf 1Po 3Pi 1Pf 1Po",
    "1Pi 1Pf 1Po 9Pd 1Po 2Pd 1Po 1Pi 1Pf 1Po 2Pi 1Pf 1Ps 1Pe 1Ps 1Pe 1Ps 1Pe 1Ps 1Pe 1Po 5Lm 1Po",
    "aPd 2Po 4Pd 1Po 1Ps 1Po dSo 2Po 3Ps 1Pe 1Ps 1Pe 1Ps 1Pe 1Ps 1Pe 1Pd 1Cn ySo qCn 1So 2hCn cSo",
    "5yCn qSo gZs 1Po 3So 1Lm 1Lo 1Nl 1Ps 1Pe 1Ps 1Pe 1Ps 1Pe 1Ps 1Pe 1Ps 1Pe 1So 2Ps 1Pe 1Ps 1Pe",
    "1Ps 1Pe 1Ps 1Pe 1Pd 1Ps 1Pe 2So 1Nl 9Mn 4Mc 2Pd 1Lm 5So 2Nl 3Lm 1Lo 1Po 1So 2Cn 1Lo 2eCn 2Mn",
    "2Sk 2Lm 2Lo 1Pd 1Lo 2iPo 1Lm 3Lo 1Cn 5Lo 17Cn 1Lo 2mCn 1So 2No 4So aLo wSo 12Cn 9So 1Lo gSo",
    "vCn 1No aSo uNo 8So 1No fSo wNo aSo 13No fSo 8wLo 534So 1sLo g7pLm 1Lo vrCn 3So 1jCn 9Lo",
    "14Lm 6Po 2Lo 7gLm 1Po 3Lo gNd aLo 2Cn kLu 1Ll 1Lu 1Ll 1Lu 1Ll 1Lu 1Ll 1Lu 1Ll 1Lu 1Ll 1Lu",
    "1Ll 1Lu 1Ll 1Lu 1Ll 1Lu 1Ll 1Lu 1Ll 1Lu 1Ll 1Lu 1Ll 1Lu 1Ll 1Lu 1Ll 1Lu 1Ll 1Lu 1Ll 1Lu 1Ll",
    "1Lu 1Ll 1Lu 1Ll 1Lu 1Ll 1Lu 1Ll 1Lu 1Ll 1Lo 1Mn 1Me 3Po 1Mn aPo 1Lm 1Lu 1Ll 1Lu 1Ll 1Lu 1Ll",
    "1Lu 1Ll 1Lu 1Ll 1Lu 1Ll 1Lu 1Ll 1Lu 1Ll 1Lu 1Ll 1Lu 1Ll 1Lu 1Ll 1Lu 1Ll 1Lu 1Ll 1Lu 1Ll 1Lm",
    "2Mn 2Lo 1yNl aMn 2Po 6Cn 8Sk nLm 9Sk 2Lu 1Ll 1Lu 1Ll 1Lu 1Ll 1Lu 1Ll 1Lu 1Ll 1Lu 1Ll 1Lu 1Ll",
    "3Lu 1Ll 1Lu 1Ll 1Lu 1Ll 1Lu 1Ll 1Lu 1Ll 1Lu 1Ll 1Lu 1Ll 1Lu 1Ll 1Lu 1Ll 1Lu 1Ll 1Lu 1Ll 1Lu",
    "1Ll 1Lu 1Ll 1Lu 1Ll 1Lu 1Ll 1Lu 1Ll 1Lu 1Ll 1Lu 1Ll 1Lu 1Ll 1Lu 1Ll 1Lu 1Ll 1Lu 1Ll 1Lu 1Ll",
    "1Lu 1Ll 1Lu 1Ll 1Lu 1Ll 1Lu 1Ll 1Lu 1Ll 1Lu 1Ll 1Lu 1Ll 1Lu 1Ll 1Lm 1Ll 8Lu 1Ll 1Lu 1Ll 1Lu",
    "2Ll 1Lu 1Ll 1Lu 1Ll 1Lu 1Ll 1Lu 1Ll 1Lm 1Sk 2Lu 1Ll 1Lu 1Ll 1Lo 1Lu 1Ll 1Lu 1Ll 3Lu 1Ll 1Lu",
    "1Ll 1Lu 1Ll 1Lu 1Ll 1Lu 1Ll 1Lu 1Ll 1Lu 1Ll 1Lu 1Ll 1Lu 1Ll 1Lu 1Ll 1Lu 5Ll 1Lu 5Ll 1Lu 1Ll",
    "1Lu 1Ll 1Lu 1Ll 1Lu 1Ll 1Lu 1Ll 1Lu 1Ll 1Lu 1Ll 1Lu 4Ll 1Lu 1Ll 1Lu 2Ll 1Cn 2Lu 1Ll 1Cn 1Ll",
    "1Cn 1Ll 1Lu 1Ll 1Lu 1Ll 1Lu 1Ll 1Lu 1Cn lLm 3Lu 1Ll 1Lo 1Lm 2Ll 1Lo 7Mn 1Lo 3Mn 1Lo 4Mn 1Lo",
    "nMc 2Mn 2Mc 1So 4Mn 1Cn 3No 6So 2Sc 1So 1Cn 6Lo 1gPo 4Cn 8Mc 2Lo 1eMc gMn 2Cn 8Po 2Nd aCn",
    "6Mn iLo 6Po 3Lo 1Po 1Lo 2Mn 1Nd aLo sMn 8Po 2Lo nMn bMc 2Cn bPo 1Lo tCn 3Mn 3Mc 1Lo 1bMn 1Mc",
    "2Mn 4Mc 2Mn 2Mc 3Po dCn 1Lm 1Nd aCn 4Po 2Lo 5Mn 1Lm 1Lo 9Nd aLo 5Cn 1Lo 15Mn 6Mc 2Mn 2Mc 2Mn",
    "2Cn 9Lo 3Mn 1Lo 8Mn 1Mc 1Cn 2Nd aCn 2Po 4Lo gLm 1Lo 6So 3Lo 1Mc 1Mn 1Mc 1Lo 1eMn 1Lo 1Mn 3Lo",
    "2Mn 2Lo 5Mn 2Lo 1Mn 1Lo 1Cn oLo 2Lm 1Po 2Lo bMc 1Mn 2Mc 2Po 2Lo 1Lm 2Mc 1Mn 1Cn aLo 6Cn 2Lo",
    "6Cn 2Lo 6Cn 9Lo 7Cn 1Lo 7Cn 1Ll 17Sk 1Lm 4Ll 9Lm 1Sk 2Cn 4Ll 28Lo zMc 2Mn 1Mc 2Mn 1Mc 2Po",
    "1Mc 1Mn 1Cn 2Nd aCn 6Lo 8mcCn cLo nCn 4Lo 1dCn 4Cs 1kwCo 4xsLo a6Cn 2Lo 2yCn 12Ll 7Cn cLl",
    "5Cn 5Lo 1Mn 1Lo aSm 1Lo dCn 1Lo 5Cn 1Lo 1Cn 1Lo 2Cn 1Lo 2Cn 1Lo 30Sk hCn gLo a3Pe 1Ps 1So",
    "gLo 1sCn 2Lo 1iCn 7So 1Cn wLo cSc 1So 3Mn gPo 7Ps 1Pe 1Po 1Cn 6Mn gPo 1Pd 2Pc 2Ps 1Pe 1Ps",
    "1Pe 1Ps 1Pe 1Ps 1Pe 1Ps 1Pe 1Ps 1Pe 1Ps 1Pe 1Ps 1Pe 1Po 2Ps 1Pe 1Po 4Pc 3Po 3Cn 1Po 4Pd 1Ps",
    "1Pe 1Ps 1Pe 1Ps 1Pe 1Po 3Sm 1Pd 1Sm 3Cn 1Po 1Sc 1Po 2Cn 4Lo 5Cn 1Lo 3rCn 2Cf 1Cn 1Po 3Sc 1Po",
    "3Ps 1Pe 1Po 1Sm 1Po 1Pd 1Po 2Nd aPo 2Sm 3Po 2Lu qPs 1Po 1Pe 1Sk 1Pc 1Sk 1Ll qPs 1Sm 1Pe 1Sm",
    "1Ps 1Pe 1Po 1Ps 1Pe 1Po 2Lo aLm 1Lo 19Lm 2Lo vCn 3Lo 6Cn 2Lo 6Cn 2Lo 6Cn 2Lo 3Cn 3Sc 2Sm 1Sk",
    "1So 1Sc 2Cn 1So 1Sm 4So 2Cn aCf 3So 2Cn 2Lo cCn 1Lo qCn 1Lo jCn 1Lo 2Cn 1Lo fCn 2Lo eCn yLo",
    "3fCn 5Po 3Cn 4No 19Cn 3So 9Nl 1hNo 4So hNo 2So 3Cn 1So dCn 3So 1Cn 1bSo 19Mn 1Cn 3mLo tCn",
    "3Lo 1dCn fMn 1No rCn 4Lo wNo 4Cn 9Lo kNl 1Lo 8Nl 1Cn 5Lo 12Mn 5Cn 5Lo uCn 1Po 1Lo 10Cn 4Lo",
    "8Po 1Nl 5Cn 16Lu 14Ll 14Lo 26Cn 2Nd aCn 6Lu 10Cn 4Ll 10Cn 4Lo 14Cn 8Lo 1gCn bPo 1Lu bCn 1Lu",
    "fCn 1Lu 7Cn 1Lu 2Cn 1Ll bCn 1Ll fCn 1Ll 7Cn 1Ll 2Cn 3Lo 1gCn cLo 8nCn 9Lo mCn aLo 8Cn oLm",
    "6Cn 1Lm 16Cn 1Lm 9Cn 1xLo 6Cn 2Lo 1Cn 1Lo 18Cn 1Lo 2Cn 3Lo 1Cn 2Lo nCn 1Po 1No 8Lo nSo 2No",
    "7Lo vCn 8No 9Cn 1cLo jCn 1Lo 2Cn 5No 5Lo mNo 6Cn 3Po 1Lo qCn 5Po 1Cn 1sLo 1kCn 4No 2Lo 2No",
    "gCn 2No 1aLo 1Mn 3Cn 1Mn 2Cn 5Mn 4Lo 4Cn 1Lo 3Cn 1Lo tCn 2Mn 3Cn 4Mn 1No 9Cn 7Po 9Cn 7Lo tNo",
    "2Po 1Lo tNo 3Cn wLo 8So 1Lo sMn 2Cn 4No 5Po 7Cn 9Lo 1iCn 3Po 7Lo mCn 2No 8Lo jCn 5No 8Lo iCn",
    "7Po 4Cn cNo 7Cn 28Lo 21Cn 1jLu 1fCn dLl 1fCn 7No 6Lo 10Mn 4Cn 8Nd aCn 6Nd aLo 4Lm 1Lo 1Lu",
    "mCn 3Mn 5Pd 1Lm 1Ll mCn 8Sm 2Cn 5sNo vCn 1Lo 16Cn 1Mn 2Pd 1Cn 2Lo 2Cn gLo 3Cn 1jMn 4Lo tNo",
    "aLo 1Cn 8Lo mMn bNo 4Po 5Cn mLo iMn 4Po 4Cn 12Lo lNo 7Cn kLo nCn 9Mc 1Mn 1Mc 1Lo 1hMn fPo",
    "7Cn 4No kNd aMn 1Lo 2Mn 2Lo 1Cn 9Mn 3Mc 1Lo 19Mc 3Mn 4Mc 2Mn 2Po 2Cf 1Po 4Mn 1Cn aCf 1Cn 2Lo",
    "pCn 7Nd aCn 6Mn 3Lo 10Mn 5Mc 1Mn 8Cn 1Nd aPo 4Lo 1Mc 2Lo 1Cn 8Lo zMn 1Po 2Lo 1Cn 9Mn 2Mc 1Lo",
    "1cMc 3Mn 9Mc 2Lo 4Po 4Mn 4Po 1Mc 1Mn 1Nd aLo 1Po 1Lo 1Po 3Cn 1No kCn bLo iCn 1Lo pMc 3Mn 3Mc",
    "2Mn 1Mc 1Mn 2Po 6Mn 1Lo 2Mn 1Cn 1qLo 7Cn 1Lo 1Cn 1Lo 4Cn 1Lo fCn 1Lo aPo 1Cn 6Lo 1bMn 1Mc",
    "3Mn 8Cn 5Nd aCn 6Mn 2Mc 2Cn 1Lo 8Cn 2Lo 2Cn 2Lo mCn 1Lo 7Cn 1Lo 2Cn 1Lo 5Cn 1Mn 2Lo 1Mc 2Mn",
    "1Mc 4Cn 2Mc 2Cn 2Mc 3Cn 2Lo 1Cn 6Mc 1Cn 5Lo 5Mc 2Cn 2Mn 7Cn 3Mn 5Cn bLo aCn 1Lo 1Cn 2Lo 1Cn",
    "1Lo 12Cn 1Lo 1Mc 3Mn 6Cn 1Mc 1Cn 2Mc 1Cn 1Mc 4Cn 1Mc 2Mn 1Mc 1Mn 1Lo 1Mn 1Lo 1Po 2Cn 1Po 2Cn",
    "8Mn 2Cn tLo 1hMc 3Mn 8Mc 2Mn 3Mc 1Mn 1Lo 4Po 5Nd aPo 2Cn 1Po 1Mn 1Lo 3Cn uLo 1cMc 3Mn 6Mc",
    "1Mn 1Mc 4Mn 2Mc 1Mn 2Lo 2Po 1Lo 1Cn 8Nd aCn 4mLo 1bMc 3Mn 4Cn 2Mc 4Mn 2Mc 1Mn 2Po nLo 4Mn",
    "2Cn yLo 1cMc 3Mn 8Mc 2Mn 1Mc 1Mn 2Po 3Lo 1Cn bNd aCn 6Po dCn jLo 17Mn 1Mc 1Mn 1Mc 2Mn 6Mc",
    "1Mn 1Lo 1Po 1Cn 6Nd aCn 6Nd kCn sLo rCn 2Mn 1Mc 1Mn 1Mc 2Mn 4Mc 1Mn 5Cn 4Nd aNo 2Po 3So 1Lo",
    "7Cn 55Lo 18Mc 3Mn 9Mc 1Mn 2Po 1Cn 2sLu wLl wNd aNo 9Cn cLo 8Cn 2Lo 1Cn 2Lo 8Cn 1Lo 2Cn 1Lo",
    "oMc 6Cn 1Mc 2Cn 2Mn 2Mc 1Mn 1Lo 1Mc 1Lo 1Mc 1Mn 1Po 3Cn 9Nd aCn 1yLo 8Cn 2Lo 13Mc 3Mn 4Cn",
    "2Mn 2Mc 4Mn 1Lo 1Po 1Lo 1Mc 1Cn rLo 1Mn aLo 14Mn 6Mc 1Lo 1Mn 4Po 8Mn 1Cn 8Lo 1Mn 6Mc 2Mn 3Lo",
    "1aMn dMc 1Mn 2Po 3Lo 1Po 5Cn dLo 21Cn 7Po aCn 52Lo xPo 1Cn eNd aCn 6Lo 9Cn 1Lo 11Mc 1Mn 7Cn",
    "1Mn 6Mc 1Mn 1Lo 1Po 5Cn aNd aNo jCn 3Po 2Lo uCn 2Mn mCn 1Mc 1Mn 7Mc 1Mn 2Mc 1Mn 2Cn 21Lo 7Cn",
    "1Lo 2Cn 1Lo 12Mn 6Cn 3Mn 1Cn 1Mn 2Cn 1Mn 7Lo 1Mn 1Cn 8Nd aCn 6Lo 6Cn 1Lo 2Cn 1Lo wMc 5Cn 1Mn",
    "2Cn 1Mc 2Mn 1Mc 1Mn 1Lo 1Cn 7Nd aCn 8mLo jMn 2Mc 2Po 2Cn 7Mn 2Lo 1Mc 1Lo dCn 1Lo yMc 2Mn 5Cn",
    "3Mc 2Mn 1Mc 1Mn 1Po dNd aMn 1Cn 2dLo 1Cn fNo lSo 8Sc 4So hCn dPo 1Lo pmCn 2uNl 33Cn 1Po 5Cn",
    "bLo 5gCn 218Lo 2pPo 2Cn dLo tsCf gMn 1Lo 6Mn fCn aLo 32zCn 5Lo g7Cn 5a1Lo uMn cMc 3Mn 3Nd",
    "aCn 1c6Lo ftCn 7Lo vCn 1Nd aCn 4Po 2Lo 27Cn 1Nd aCn 6Lo uCn 2Mn 5Po 1Cn aLo 1cMn 7Po 5So 4Lm",
    "4Po 1So 1Cn aNd aCn 1No 7Cn 1Lo lCn 5Lo jCn c0Lm 3Lo 14Lm 2Po 3Nd aCn 5iLu wLl wNo nPo 4Cn",
    "2tLo 23Cn 4Mn 1Lo 1Mc 1jCn 7Mn 4Lm dCn 1sLm 2Po 1Lm 1Mn 1Cn bMc 2Cn eLo 4qgCn 8Lo yeCn 15Lo",
    "aCn 6w7Lm 4Cn 1Lm 7Cn 1Lm 2Cn 1Lo 83Cn fLo 1Cn tLo 3Cn 2Lo 1Cn eLo 4Cn 8Lo b0Cn 1s4Lo 2zCn",
    "5Lo dCn 3Lo 9Cn 7Lo aCn 2So 1Mn 2Po 1Cf 4Cn 318So 6oNd aCn 6So c4Cn 24Mn 1aCn 2Mn nCn 9So",
    "38Cn 1oSo 6uCn aSo 13Cn 2So 1oMc 2Mn 3So 3Mc 6Cf 8Mn 8So 2Mn 7So uMn 4So 1pCn lSo 1uMn 3So",
    "1Cn 3eNo kCn cNo kCn cSo 2fCn 9No pCn 3rLu qLl qLu qLl 7Cn 1Ll iLu qLl qLu 1Cn 1Lu 2Cn 2Lu",
    "1Cn 2Lu 2Cn 2Lu 4Cn 1Lu 8Ll 4Cn 1Ll 1Cn 1Ll 7Cn 1Ll bLu qLl qLu 2Cn 1Lu 4Cn 2Lu 8Cn 1Lu 7Cn",
    "1Ll qLu 2Cn 1Lu 4Cn 1Lu 5Cn 1Lu 1Cn 3Lu 7Cn 1Ll qLu qLl qLu qLl qLu qLl qLu qLl qLu qLl qLu",
    "qLl sCn 2Lu pSm 1Ll pSm 1Ll 6Lu pSm 1Ll pSm 1Ll 6Lu pSm 1Ll pSm 1Ll 6Lu pSm 1Ll pSm 1Ll 6Lu",
    "pSm 1Ll pSm 1Ll 6Lu 1Ll 1Cn 2Nd 1eSo e8Mn 1jSo 4Mn 1eSo 8Mn 1So eMn 1So 2Po 5Cn fMn 5Cn 1Mn",
    "fCn uoLl aLo 1Ll kCn 6Ll 6Cn 5xMn 7Cn 1Mn hCn 2Mn 7Cn 1Mn 2Cn 1Mn 5Cn 5Lm 1qCn xMn 1Cn 34Lo",
    "19Cn 3Mn 7Lm 7Cn 2Nd aCn 4Lo 1So 1Cn 8wLo uMn 1Cn hLo 18Mn 4Nd aCn 5Sc 1Cn cwLo rLm 1Mn 4Nd",
    "aCn 5yLo uMn 2Lo 1Nd aCn 4Po 1Cn dcLo 7Cn 1Lo 4Cn 1Lo 2Cn 1Lo fCn 1Lo 5hCn 2No 9Mn 7Cn 15Lu",
    "yLl yMn 7Lm 1Cn 4Nd aCn 4Po 2Cn ltNo 1nSo 1No 3Sc 1No 4Cn 24No 19So 1No fCn 5eLo 4Cn 1Lo rCn",
    "1Lo 2Cn 1Lo 1Cn 2Lo 1Cn 1Lo aCn 1Lo 4Cn 1Lo 1Cn 1Lo 1Cn 6Lo 1Cn 4Lo 1Cn 1Lo 1Cn 1Lo 1Cn 1Lo",
    "3Cn 1Lo 2Cn 1Lo 1Cn 2Lo 1Cn 1Lo 1Cn 1Lo 1Cn 1Lo 1Cn 1Lo 1Cn 1Lo 2Cn 1Lo 1Cn 2Lo 4Cn 1Lo 7Cn",
    "1Lo 4Cn 1Lo 4Cn 1Lo 1Cn 1Lo aCn 1Lo hCn 5Lo 3Cn 1Lo 5Cn 1Lo hCn 1gSm 2Cn 7iSo 18Cn 4So 2sCn",
    "cSo fCn 2So fCn 1So fCn 1So 11Cn aNo dSo 4hCn 1kSo tCn dSo 18Cn 4So 9Cn 7So 2Cn eSo 6Cn 4aSo",
    "6zSk 5So k8Cn 4So hCn 3So dCn 3So 3bCn 4So 2nCn 6So cCn 4So 1Cn fSo cCn 4So 1kCn 8So aCn 6So",
    "14Cn 8So uCn 2So cCn 4So 2Cn 1qSo 9gCn cSo eCn 2So dCn 3So aCn 5So 1kCn 7So fCn 2So bCn 6So",
    "9Cn 7So 43Cn 1So 2kNd aCn smLo wyoCn wLo 37eCn 6Lo 66Cn 2Lo 4g2Cn eLo 5rlCn fLo haCn 1wiLo",
    "f2Cn 15uLo 3t7Cn 5Lo 38gCn f975Cf 1Cn uCf 2oCn 3kMn 6oCn 1e6oCo 1ekeCn 2Co 1ekeCn"]

/-- The runs of characters of one category, as first and last code point and category. -/
def categoryRuns : List (Nat × Nat × String) := Table.runs categoryTable

/-- The names of categories and of groups of them, in the form of `Table.looseName`, with the
categories they stand for. -/
def categoryNames : List (List String × List String) :=
  [
    (["lu", "uppercaseletter"], ["Lu"]),
    (["ll", "lowercaseletter"], ["Ll"]),
    (["lt", "titlecaseletter"], ["Lt"]),
    (["lm", "modifierletter"], ["Lm"]),
    (["lo", "otherletter"], ["Lo"]),
    (["mn", "nonspacingmark"], ["Mn"]),
    (["mc", "spacingmark"], ["Mc"]),
    (["enclosingmark", "me"], ["Me"]),
    (["decimalnumber", "digit", "nd"], ["Nd"]),
    (["letternumber", "nl"], ["Nl"]),
    (["no", "othernumber"], ["No"]),
    (["connectorpunctuation", "pc"], ["Pc"]),
    (["dashpunctuation", "pd"], ["Pd"]),
    (["openpunctuation", "ps"], ["Ps"]),
    (["closepunctuation", "pe"], ["Pe"]),
    (["initialpunctuation", "pi"], ["Pi"]),
    (["finalpunctuation", "pf"], ["Pf"]),
    (["otherpunctuation", "po"], ["Po"]),
    (["mathsymbol", "sm"], ["Sm"]),
    (["currencysymbol", "sc"], ["Sc"]),
    (["modifiersymbol", "sk"], ["Sk"]),
    (["othersymbol", "so"], ["So"]),
    (["spaceseparator", "zs"], ["Zs"]),
    (["lineseparator", "zl"], ["Zl"]),
    (["paragraphseparator", "zp"], ["Zp"]),
    (["cc", "cntrl", "control"], ["Cc"]),
    (["cf", "format"], ["Cf"]),
    (["cs", "surrogate"], ["Cs"]),
    (["co", "privateuse"], ["Co"]),
    (["cn", "unassigned"], ["Cn"]),
    (["l", "letter"], ["Lu", "Ll", "Lt", "Lm", "Lo"]),
    (["casedletter", "lc"], ["Lu", "Ll", "Lt"]),
    (["combiningmark", "m", "mark"], ["Mn", "Mc", "Me"]),
    (["n", "number"], ["Nd", "Nl", "No"]),
    (["p", "punct", "punctuation"], ["Pc", "Pd", "Ps", "Pe", "Pi", "Pf", "Po"]),
    (["s", "symbol"], ["Sm", "Sc", "Sk", "So"]),
    (["separator", "z"], ["Zs", "Zl", "Zp"]),
    (["c", "other"], ["Cc", "Cf", "Cs", "Co", "Cn"])]

/-- The categories that a name stands for. -/
def categories? (name : String) : Option (List String) :=
  (categoryNames.find? fun row => row.1.contains name).map (·.2)

/-- The ranges of the characters of some categories. -/
def categoryRanges (names : List String) : List (Nat × Nat) :=
  categoryRuns.filterMap fun (lo, hi, c) => if names.contains c then some (lo, hi) else none

end LintVerdict.Unicode
