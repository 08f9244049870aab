import LintVerdict.Unicode.Table

/-!
# Scripts

Every character belongs to one script, written with a four-letter code.

## Main definitions

* `script?`: the script of a name.
* `scriptRanges`: the ranges of the characters of a script.
-/

namespace LintVerdict.Unicode

/-- The written form of the scripts, see `Table.runs`. -/
def scriptTable : List String :=
  [
    "0Zyyy 1tLatn qZyyy 6Latn qZyyy 1bLatn 1Zyyy fLatn 1Zyyy 5Latn nZyyy 1Latn vZyyy 1Latn chZyyy",
    "13Latn 5Zyyy 5Bopo 2Zyyy kZinh 34Grek 4Zyyy 1Grek 3Zzzz 2Grek 4Zyyy 1Grek 1Zzzz 4Grek 1Zyyy",
    "1Grek 1Zyyy 1Grek 3Zzzz 1Grek 1Zzzz 1Grek kZzzz 1Grek 1rCopt eGrek gCyrl 3pZinh 2Cyrl 4pZzzz",
    "1Armn 12Zzzz 2Armn 1eZzzz 2Armn 3Zzzz 1Hebr 1jZzzz 8Hebr rZzzz 4Hebr 6Zzzz bArab 5Zyyy 1Arab",
    "6Zyyy 1Arab eZyyy 1Arab 3Zyyy 1Arab wZyyy 1Arab aZinh bArab qZinh 1Arab 30Zyyy 1Arab ySyrc",
    "eZzzz 1Syrc 1oZzzz 2Syrc 3Arab 1cThaa 1eZzzz eNkoo 1nZzzz 2Nkoo 3Samr 1aZzzz 2Samr fZzzz",
    "1Mand sZzzz 2Mand 1Zzzz 1Syrc bZzzz 5Arab vZzzz 1Arab 2Zzzz 5Arab 23Zyyy 1Arab tDeva 29Zinh",
    "4Deva fZyyy 2Deva qBeng 4Zzzz 1Beng 8Zzzz 2Beng 2Zzzz 2Beng mZzzz 1Beng 7Zzzz 1Beng 1Zzzz",
    "3Beng 4Zzzz 2Beng 9Zzzz 2Beng 2Zzzz 2Beng 4Zzzz 8Beng 1Zzzz 4Beng 2Zzzz 1Beng 5Zzzz 2Beng",
    "pZzzz 2Guru 3Zzzz 1Guru 6Zzzz 4Guru 2Zzzz 2Guru mZzzz 1Guru 7Zzzz 1Guru 2Zzzz 1Guru 2Zzzz",
    "1Guru 2Zzzz 2Guru 1Zzzz 1Guru 5Zzzz 4Guru 2Zzzz 2Guru 3Zzzz 3Guru 1Zzzz 7Guru 4Zzzz 1Guru",
    "1Zzzz 7Guru hZzzz aGujr 3Zzzz 1Gujr 9Zzzz 1Gujr 3Zzzz 1Gujr mZzzz 1Gujr 7Zzzz 1Gujr 2Zzzz",
    "1Gujr 5Zzzz 2Gujr aZzzz 1Gujr 3Zzzz 1Gujr 3Zzzz 2Gujr 1Zzzz fGujr 4Zzzz 2Gujr cZzzz 7Gujr",
    "7Zzzz 1Orya 3Zzzz 1Orya 8Zzzz 2Orya 2Zzzz 2Orya mZzzz 1Orya 7Zzzz 1Orya 2Zzzz 1Orya 5Zzzz",
    "2Orya 9Zzzz 2Orya 2Zzzz 2Orya 3Zzzz 7Orya 3Zzzz 4Orya 2Zzzz 1Orya 5Zzzz 2Orya iZzzz aTaml",
    "2Zzzz 1Taml 6Zzzz 3Taml 3Zzzz 1Taml 4Zzzz 3Taml 2Zzzz 1Taml 1Zzzz 1Taml 2Zzzz 3Taml 2Zzzz",
    "3Taml 3Zzzz 3Taml cZzzz 4Taml 5Zzzz 3Taml 3Zzzz 1Taml 4Zzzz 2Taml 1Zzzz 6Taml 1Zzzz eTaml",
    "lZzzz 5Telu dZzzz 1Telu 3Zzzz 1Telu nZzzz 1Telu gZzzz 2Telu 9Zzzz 1Telu 3Zzzz 1Telu 4Zzzz",
    "7Telu 2Zzzz 1Telu 3Zzzz 2Telu 1Zzzz 2Telu 4Zzzz 2Telu aZzzz 7Telu 9Knda dZzzz 1Knda 3Zzzz",
    "1Knda nZzzz 1Knda aZzzz 1Knda 5Zzzz 2Knda 9Zzzz 1Knda 3Zzzz 1Knda 4Zzzz 7Knda 2Zzzz 6Knda",
    "2Zzzz 1Knda 4Zzzz 2Knda aZzzz 1Knda 3Zzzz cMlym dZzzz 1Mlym 3Zzzz 1Mlym 1fZzzz 1Mlym 3Zzzz",
    "1Mlym 6Zzzz 4Mlym gZzzz 2Mlym qZzzz 1Sinh 3Zzzz 1Sinh iZzzz 3Sinh oZzzz 1Sinh 9Zzzz 1Sinh",
    "1Zzzz 2Sinh 7Zzzz 3Sinh 1Zzzz 4Sinh 6Zzzz 1Sinh 1Zzzz 1Sinh 8Zzzz 6Sinh aZzzz 2Sinh 3Zzzz",
    "cThai 1mZzzz 4Zyyy 1Thai sZzzz 11Laoo 2Zzzz 1Laoo 1Zzzz 1Laoo 5Zzzz 1Laoo oZzzz 1Laoo 1Zzzz",
    "1Laoo nZzzz 2Laoo 5Zzzz 1Laoo 1Zzzz 1Laoo 7Zzzz 1Laoo aZzzz 2Laoo 4Zzzz wTibt 20Zzzz 1Tibt",
    "10Zzzz 4Tibt 13Zzzz 1Tibt 10Zzzz 1Tibt fZzzz 1Tibt 7Zyyy 4Tibt 2Zzzz 11Mymr 4gGeor 12Zzzz",
    "1Geor 1Zzzz 5Geor 1Zzzz 2Geor 17Zyyy 1Geor 4Hang 74Ethi 21Zzzz 1Ethi 4Zzzz 2Ethi 7Zzzz 1Ethi",
    "1Zzzz 1Ethi 4Zzzz 2Ethi 15Zzzz 1Ethi 4Zzzz 2Ethi xZzzz 1Ethi 4Zzzz 2Ethi 7Zzzz 1Ethi 1Zzzz",
    "1Ethi 4Zzzz 2Ethi fZzzz 1Ethi 1lZzzz 1Ethi 4Zzzz 2Ethi 1vZzzz 2Ethi wZzzz 3Ethi qZzzz 6Cher",
    "2eZzzz 2Cher 6Zzzz 2Cans hsOgam tZzzz 3Runr 23Zyyy 3Runr bZzzz 7Tglg mZzzz 9Tglg 1Hano lZyyy",
    "2Zzzz 9Buhd kZzzz cTagb dZzzz 1Tagb 3Zzzz 1Tagb 2Zzzz cKhmr 2mZzzz 2Khmr aZzzz 6Khmr aZzzz",
    "6Mong 2Zyyy 2Mong 1Zyyy 1Mong kZzzz 6Mong 2hZzzz 7Mong 17Zzzz 5Cans 1yZzzz aLimb vZzzz 1Limb",
    "cZzzz 4Limb cZzzz 4Limb 1Zzzz 3Limb cTale uZzzz 2Tale 5Zzzz bTalu 18Zzzz 4Talu qZzzz 6Talu",
    "bZzzz 3Talu 2Khmr wBugi sZzzz 2Bugi 2Lana 1rZzzz 1Lana tZzzz 2Lana bZzzz 6Lana aZzzz 6Lana",
    "eZzzz 2Zinh vZzzz 1dBali 25Zzzz 1Bali 1eSund 1sBatk 1gZzzz 8Batk 4Lepc 1kZzzz 3Lepc fZzzz",
    "3Lepc 3Olck 1cCyrl bZzzz 5Geor 17Zzzz 2Geor 3Sund 8Zzzz 8Zinh 3Zyyy 1Zinh dZyyy 1Zinh 7Zyyy",
    "4Zinh 1Zyyy 6Zinh 1Zyyy 3Zinh 2Zyyy 1Zzzz 5Latn 12Grek 5Cyrl 1Latn 1dGrek 5Latn 4Grek 5Latn",
    "dCyrl 1Latn 1yGrek 1Zinh 1sLatn 74Grek mZzzz 2Grek 6Zzzz 2Grek 12Zzzz 2Grek 6Zzzz 2Grek",
    "8Zzzz 1Grek 1Zzzz 1Grek 1Zzzz 1Grek 1Zzzz 1Grek vZzzz 2Grek 1hZzzz 1Grek fZzzz 1Grek eZzzz",
    "2Grek 6Zzzz 1Grek jZzzz 2Grek 3Zzzz 1Grek 9Zzzz 1Zyyy cZinh 2Zyyy 2fZzzz 1Zyyy bLatn 1Zzzz",
    "2Zyyy bLatn 1Zyyy fZzzz 1Latn dZzzz 3Zyyy xZzzz fZinh xZzzz fZyyy 12Grek 1Zyyy 3Latn 2Zyyy",
    "6Latn 1Zyyy rLatn 1Zyyy hLatn 15Zyyy 3Zzzz 4Zyyy iiZzzz mZyyy bZzzz lZyyy psBrai 74Zyyy",
    "hgZzzz 2Zyyy wZzzz 1Zyyy 2xGlag 2oLatn wCopt 38Zzzz 5Copt 7Geor 12Zzzz 1Geor 1Zzzz 5Geor",
    "1Zzzz 2Tfng 1kZzzz 7Tfng 2Zzzz eTfng 1Ethi nZzzz 9Ethi 7Zzzz 1Ethi 7Zzzz 1Ethi 7Zzzz 1Ethi",
    "7Zzzz 1Ethi 7Zzzz 1Ethi 7Zzzz 1Ethi 7Zzzz 1Ethi 7Zzzz 1Cyrl wZyyy 2mZzzz yHani qZzzz 1Hani",
    "2hZzzz cHani 5yZzzz qZyyy lHani 1Zyyy 1Hani 1Zyyy pHani 9Zinh 4Hang 2Zyyy 8Hani 4Zyyy 4Zzzz",
    "1Hira 2eZzzz 2Zinh 2Zyyy 2Hira 3Zyyy 1Kana 2iZyyy 2Kana 3Zzzz 5Bopo 17Zzzz 1Hang 2mZzzz",
    "1Zyyy gBopo wZyyy 12Zzzz 9Zyyy 1Kana gHang vZzzz 1Zyyy 1sHang vZyyy 29Kana 1bZyyy 1Kana",
    "2gZyyy 4oHani 534Zyyy 1sHani g74Yiii wdZzzz 3Yiii 1jZzzz 9Lisu 1cVaii 8cZzzz kCyrl 2oBamu",
    "2gZzzz 8Zyyy yLatn 2uZyyy 3Latn 1vZzzz 2Latn 2Zzzz 1Latn 1Zzzz 1Latn 8Zzzz lLatn eSylo",
    "19Zzzz 3Zyyy aZzzz 6Phag 1kZzzz 8Saur 1yZzzz 8Saur cZzzz 6Deva wKali 1aZyyy 1Kali 1Rjng",
    "10Zzzz bRjng 1Hang tZzzz 3Java 26Zzzz 1Zyyy 1Java aZzzz 4Java 2Mymr vZzzz 1Cham 1jZzzz 9Cham",
    "eZzzz 2Cham aZzzz 2Cham 4Mymr wTavt 1vZzzz oTavt 5Mtei nZzzz aEthi 6Zzzz 2Ethi 6Zzzz 2Ethi",
    "6Zzzz 9Ethi 7Zzzz 1Ethi 7Zzzz 1Latn 17Zyyy 1Latn 9Grek 1Latn 4Zyyy 2Zzzz 4Cher 28Mtei 1aZzzz",
    "2Mtei aZzzz 6Hang 8mcZzzz cHang nZzzz 4Hang 1dZzzz 6isHani a6Zzzz 2Hani 2yZzzz 12Latn 7Zzzz",
    "cArmn 5Zzzz 5Hebr qZzzz 1Hebr 5Zzzz 1Hebr 1Zzzz 1Hebr 2Zzzz 1Hebr 2Zzzz 1Hebr aArab 37Zzzz",
    "gArab a3Zyyy 2Arab 28Zzzz 2Arab 1iZzzz 7Arab 1Zzzz wArab gZinh gZyyy aZzzz 6Zinh eCyrl 2Zyyy",
    "zZzzz 1Zyyy jZzzz 1Zyyy 4Zzzz 4Arab 5Zzzz 1Arab 3rZzzz 2Zyyy 1Zzzz 1Zyyy wLatn qZyyy 6Latn",
    "qZyyy bKana aZyyy 1Kana 19Zyyy 2Hang vZzzz 3Hang 6Zzzz 2Hang 6Zzzz 2Hang 6Zzzz 2Hang 3Zzzz",
    "3Zyyy 7Zzzz 1Zyyy 7Zzzz aZyyy 5Zzzz 2Linb cZzzz 1Linb qZzzz 1Linb jZzzz 1Linb 2Zzzz 1Linb",
    "fZzzz 2Linb eZzzz yLinb 3fZzzz 5Zyyy 3Zzzz 4Zyyy 19Zzzz 3Zyyy 9Grek 27Zzzz 1Zyyy dZzzz 3Grek",
    "1Zzzz 1bZyyy 19Zinh 1Zzzz 3mLyci tZzzz 3Cari 1dZzzz fZinh 1Zyyy rZzzz 4Ital 10Zzzz 9Ital",
    "3Goth rZzzz 5Perm 17Zzzz 5Ugar uZzzz 1Ugar 1Xpeo 10Zzzz 4Xpeo eZzzz 16Dsrt 28Shaw 1cOsma",
    "uZzzz 2Osma aZzzz 6Osge 10Zzzz 4Osge 10Zzzz 4Elba 14Zzzz 8Aghb 1gZzzz bAghb 1Vith bZzzz",
    "1Vith fZzzz 1Vith 7Zzzz 1Vith 2Zzzz 1Vith bZzzz 1Vith fZzzz 1Vith 7Zzzz 1Vith 2Zzzz 3Todr",
    "1gZzzz cLina 8nZzzz 9Lina mZzzz aLina 8Zzzz oLatn 6Zzzz 1Latn 16Zzzz 1Latn 9Zzzz 1xCprt",
    "6Zzzz 2Cprt 1Zzzz 1Cprt 18Zzzz 1Cprt 2Zzzz 3Cprt 1Zzzz 2Cprt 1Armi mZzzz 1Armi 9Palm wNbat",
    "vZzzz 8Nbat 9Zzzz 1cHatr jZzzz 1Hatr 2Zzzz 5Hatr 5Phnx sZzzz 3Phnx 1Lydi qZzzz 5Lydi 1Zzzz",
    "1sMero wMerc oZzzz 4Merc kZzzz 2Merc 1aKhar 4Zzzz 1Khar 2Zzzz 5Khar 8Zzzz 1Khar 3Zzzz 1Khar",
    "tZzzz 2Khar 3Zzzz 4Khar aZzzz 7Khar 9Zzzz 7Sarb wNarb wZzzz wMani 13Zzzz 4Mani cZzzz 9Avst",
    "1iZzzz 3Avst 7Prti mZzzz 2Prti 8Phli jZzzz 5Phli 8Phlp iZzzz 7Phlp 4Zzzz cPhlp 7Zzzz 28Orkh",
    "21Zzzz 1jHung 1fZzzz dHung 1fZzzz 7Hung 6Rohg 14Zzzz 8Rohg aZzzz 6Gara 12Zzzz 3Gara tZzzz",
    "8Gara 2Zzzz 5sArab vZzzz 1Yezi 16Zzzz 1Yezi 3Zzzz 2Yezi 2Zzzz gArab 3Zzzz 1jArab 4Sogo",
    "14Zzzz 8Sogd 16Zzzz mOugr qZzzz 12Chrs sZzzz kElym nZzzz 9Brah 26Zzzz 4Brah 10Zzzz 9Brah",
    "1Kthi 1vZzzz aKthi 1Zzzz 2Sora pZzzz 7Sora aZzzz 6Cakm 1hZzzz 1Cakm iZzzz 8Mahj 13Zzzz 9Shrd",
    "2oZzzz 1Sinh kZzzz bKhoj iZzzz 1Khoj 1bZzzz 1qMult 7Zzzz 1Mult 1Zzzz 1Mult 4Zzzz 1Mult fZzzz",
    "1Mult bZzzz 6Sind 1nZzzz 5Sind aZzzz 6Gran 4Zzzz 1Gran 8Zzzz 2Gran 2Zzzz 2Gran mZzzz 1Gran",
    "7Zzzz 1Gran 2Zzzz 1Gran 5Zzzz 1Zinh 1Gran 9Zzzz 2Gran 2Zzzz 2Gran 3Zzzz 2Gran 1Zzzz 6Gran",
    "1Zzzz 5Gran 7Zzzz 2Gran 7Zzzz 3Gran 5Zzzz bTutg aZzzz 1Tutg 1Zzzz 2Tutg 1Zzzz 1Tutg 12Zzzz",
    "1Tutg aZzzz 1Tutg 1Zzzz 2Tutg 1Zzzz 1Tutg 4Zzzz 1Tutg aZzzz 1Tutg 2Zzzz 8Tutg 2Zzzz tNewa",
    "2kZzzz 1Newa 5Zzzz uTirh 20Zzzz 8Tirh aZzzz 4mSidd 1iZzzz 2Sidd 12Zzzz yModi 1xZzzz bModi",
    "aZzzz 6Mong dZzzz jTakr 1mZzzz 6Takr aZzzz 6Mymr kZzzz sAhom rZzzz 2Ahom fZzzz 4Ahom nZzzz",
    "55Dogr 1oZzzz 2sWara 2bZzzz cWara 1Diak 7Zzzz 2Diak 1Zzzz 2Diak 8Zzzz 1Diak 2Zzzz 1Diak",
    "uZzzz 1Diak 2Zzzz 2Diak cZzzz 9Diak aZzzz 1yNand 8Zzzz 2Nand 1aZzzz 2Nand bZzzz rZanb 20Zzzz",
    "8Soyo 2bZzzz dCans gPauc 1lZzzz 7Deva aZzzz 52Sunu yZzzz eSunu aZzzz 6Bhks 9Zzzz 1Bhks",
    "19Zzzz 1Bhks eZzzz aBhks tZzzz 3Marc wZzzz 2Marc mZzzz 1Marc eZzzz 21Gonm 7Zzzz 1Gonm 2Zzzz",
    "1Gonm 18Zzzz 3Gonm 1Zzzz 1Gonm 2Zzzz 1Gonm 9Zzzz 8Gonm aZzzz 6Gong 6Zzzz 1Gong 2Zzzz 1Gong",
    "11Zzzz 1Gong 2Zzzz 1Gong 6Zzzz 7Gong aZzzz 8mMaka pZzzz 7Kawi hZzzz 1Kawi 15Zzzz 3Kawi tZzzz",
    "2dLisu 1Zzzz fTaml 1eZzzz dTaml 1Xsux pmZzzz 2uXsux 33Zzzz 1Xsux 5Zzzz bXsux 5gZzzz 218Cpmn",
    "2rZzzz dEgyp uuZzzz aEgyp 32zZzzz 5Hluw g7Zzzz 5a1Gukh 1mZzzz 1c6Bamu ftZzzz 7Mroo vZzzz",
    "1Mroo aZzzz 4Mroo 2Tnsa 27Zzzz 1Tnsa aZzzz 6Bass uZzzz 2Bass 6Zzzz aHmng 1yZzzz aHmng aZzzz",
    "1Hmng 7Zzzz 1Hmng lZzzz 5Hmng jZzzz c0Krai 1mZzzz 5iMedf 2jZzzz 2tPlrd 23Zzzz 4Plrd 1lZzzz",
    "7Plrd hZzzz 1sTang 1Nshu 1Hani 2Kits 1Zzzz bHani 2Zzzz eTang 4qgZzzz 8Tang lcKits d2Zzzz",
    "15Kits 1Tang 9Zzzz 6w7Kana 4Zzzz 1Kana 7Zzzz 1Kana 2Zzzz 1Kana 1Hira 7zKana 3Zzzz fHira",
    "1Zzzz tHira 3Zzzz 2Kana 1Zzzz eKana 4Zzzz 8Nshu b0Zzzz 1s4Dupl 2zZzzz 5Dupl dZzzz 3Dupl",
    "9Zzzz 7Dupl aZzzz 2Dupl 4Zyyy 4Zzzz 318Zyyy 6yZzzz 6Zyyy c4Zzzz 24Zinh 1aZzzz 2Zinh nZzzz",
    "9Zyyy 38Zzzz 1oZyyy 6uZzzz aZyyy 13Zzzz 2Zyyy 1qZinh 3Zyyy hZinh 8Zyyy 2Zinh 7Zyyy uZinh",
    "4Zyyy 1pZzzz lGrek 1yZzzz 3eZyyy kZzzz cZyyy kZzzz cZyyy 2fZzzz 9Zyyy pZzzz 3rZyyy 2dZzzz",
    "1Zyyy 1zZzzz 1Zyyy 2Zzzz 2Zyyy 1Zzzz 2Zyyy 2Zzzz 2Zyyy 4Zzzz 1Zyyy cZzzz 1Zyyy 1Zzzz 1Zyyy",
    "7Zzzz 1Zyyy 1tZzzz 1Zyyy 4Zzzz 2Zyyy 8Zzzz 1Zyyy 7Zzzz 1Zyyy sZzzz 1Zyyy 4Zzzz 1Zyyy 5Zzzz",
    "1Zyyy 1Zzzz 3Zyyy 7Zzzz 1Zyyy 9gZzzz 2Zyyy 84Zzzz 2Zyyy 1eSgnw i4Zzzz fSgnw 5Zzzz 1Sgnw",
    "fZzzz uoLatn vZzzz 6Latn 6Zzzz 5xGlag 7Zzzz 1Glag hZzzz 2Glag 7Zzzz 1Glag 2Zzzz 1Glag 5Zzzz",
    "5Cyrl 1qZzzz xCyrl 1Zzzz 34Hmnp 19Zzzz 3Hmnp eZzzz 2Hmnp aZzzz 4Hmnp 2Zzzz 8wToto vZzzz",
    "hWcho 1mZzzz 5Wcho 1Zzzz cwNagm 16Zzzz 5yOnao 17Zzzz 4Onao 1Zzzz dcEthi 7Zzzz 1Ethi 4Zzzz",
    "1Ethi 2Zzzz 1Ethi fZzzz 1Mend 5hZzzz 2Mend gZzzz 15Adlm 24Zzzz 4Adlm aZzzz 4Adlm 2Zzzz",
    "ltZyyy 1wZzzz 24Zyyy 1pZzzz 5eArab 4Zzzz 1Arab rZzzz 1Arab 2Zzzz 1Arab 1Zzzz 2Arab 1Zzzz",
    "1Arab aZzzz 1Arab 4Zzzz 1Arab 1Zzzz 1Arab 1Zzzz 6Arab 1Zzzz 4Arab 1Zzzz 1Arab 1Zzzz 1Arab",
    "1Zzzz 1Arab 3Zzzz 1Arab 2Zzzz 1Arab 1Zzzz 2Arab 1Zzzz 1Arab 1Zzzz 1Arab 1Zzzz 1Arab 1Zzzz",
    "1Arab 1Zzzz 1Arab 2Zzzz 1Arab 1Zzzz 2Arab 4Zzzz 1Arab 7Zzzz 1Arab 4Zzzz 1Arab 4Zzzz 1Arab",
    "1Zzzz 1Arab aZzzz 1Arab hZzzz 5Arab 3Zzzz 1Arab 5Zzzz 1Arab hZzzz 1gArab 2Zzzz 7iZyyy 18Zzzz",
    "4Zyyy 2sZzzz cZyyy fZzzz 2Zyyy fZzzz 1Zyyy fZzzz 1Zyyy 11Zzzz aZyyy 4uZzzz 1kZyyy qHira",
    "1Zyyy 2Zzzz dZyyy 18Zzzz 4Zyyy 9Zzzz 7Zyyy 2Zzzz eZyyy 6Zzzz 4aZyyy rcZzzz 4Zyyy hZzzz 3Zyyy",
    "dZzzz 3Zyyy 3bZzzz 4Zyyy 2nZzzz 6Zyyy cZzzz 4Zyyy 1Zzzz fZyyy cZzzz 4Zyyy 1kZzzz 8Zyyy aZzzz",
    "6Zyyy 14Zzzz 8Zyyy uZzzz 2Zyyy cZzzz 4Zyyy 2Zzzz 1qZyyy 9gZzzz cZyyy eZzzz 2Zyyy dZzzz 3Zyyy",
    "aZzzz 5Zyyy 1kZzzz 7Zyyy fZzzz 2Zyyy bZzzz 6Zyyy 9Zzzz 7Zyyy 43Zzzz 1Zyyy 2uZzzz smHani",
    "wyoZzzz wHani 37eZzzz 6Hani 66Zzzz 2Hani 4g2Zzzz eHani 5rlZzzz fHani haZzzz 1wiHani f2Zzzz",
    "15uHani 3t7Zzzz 5Hani 38gZzzz f975Zyyy 1Zzzz uZyyy 2oZzzz 3kZinh 6oZzzz"]

/-- The runs of characters of one script, as first and last code point and script. -/
def scriptRuns : List (Nat × Nat × String) := Table.runs scriptTable

/-- The names of scripts, in the form of `Table.looseName`, with their codes. -/
def scriptNames : List (List String × String) :=
  [
    (["adlam", "adlm"], "Adlm"),
    (["aghb", "caucasianalbanian"], "Aghb"),
    (["ahom"], "Ahom"),
    (["arab", "arabic"], "Arab"),
    (["armi", "imperialaramaic"], "Armi"),
    (["armenian", "armn"], "Armn"),
    (["avestan", "avst"], "Avst"),
    (["bali", "balinese"], "Bali"),
    (["bamu", "bamum"], "Bamu"),
    (["bass", "bassavah"], "Bass"),
    (["batak", "batk"], "Batk"),
    (["beng", "bengali"], "Beng"),
    (["bhaiksuki", "bhks"], "Bhks"),
    (["bopo", "bopomofo"], "Bopo"),
    (["brah", "brahmi"], "Brah"),
    (["brai", "braille"], "Brai"),
    (["bugi", "buginese"], "Bugi"),
    (["buhd", "buhid"], "Buhd"),
    (["cakm", "chakma"], "Cakm"),
    (["canadianaboriginal", "cans"], "Cans"),
    (["cari", "carian"], "Cari"),
    (["cham"], "Cham"),
    (["cher", "cherokee"], "Cher"),
    (["chorasmian", "chrs"], "Chrs"),
    (["copt", "coptic", "qaac"], "Copt"),
    (["cpmn", "cyprominoan"], "Cpmn"),
    (["cprt", "cypriot"], "Cprt"),
    (["cyrillic", "cyrl"], "Cyrl"),
    (["deva", "devanagari"], "Deva"),
    (["diak", "divesakuru"], "Diak"),
    (["dogr", "dogra"], "Dogr"),
    (["deseret", "dsrt"], "Dsrt"),
    (["dupl", "duployan"], "Dupl"),
    (["egyp", "egyptianhieroglyphs"], "Egyp"),
    (["elba", "elbasan"], "Elba"),
    (["elym", "elymaic"], "Elym"),
    (["ethi", "ethiopic"], "Ethi"),
    (["gara", "garay"], "Gara"),
    (["geor", "georgian"], "Geor"),
    (["glag", "glagolitic"], "Glag"),
    (["gong", "gunjalagondi"], "Gong"),
    (["gonm", "masaramgondi"], "Gonm"),
    (["goth", "gothic"], "Goth"),
    (["gran", "grantha"], "Gran"),
    (["greek", "grek"], "Grek"),
    (["gujarati", "gujr"], "Gujr"),
    (["gukh", "gurungkhema"], "Gukh"),
    (["gurmukhi", "guru"], "Guru"),
    (["hang", "hangul"], "Hang"),
    (["han", "hani"], "Hani"),
    (["hano", "hanunoo"], "Hano"),
    (["hatr", "hatran"], "Hatr"),
    (["hebr", "hebrew"], "Hebr"),
    (["hira", "hiragana"], "Hira"),
    (["anatolianhieroglyphs", "hluw"], "Hluw"),
    (["hmng", "pahawhhmong"], "Hmng"),
    (["hmnp", "nyiakengpuachuehmong"], "Hmnp"),
    (["hung", "oldhungarian"], "Hung"),
    (["ital", "olditalic"], "Ital"),
    (["java", "javanese"], "Java"),
    (["kali", "kayahli"], "Kali"),
    (["kana", "katakana"], "Kana"),
    (["kawi"], "Kawi"),
    (["khar", "kharoshthi"], "Khar"),
    (["khmer", "khmr"], "Khmr"),
    (["khoj", "khojki"], "Khoj"),
    (["khitansmallscript", "kits"], "Kits"),
    (["kannada", "knda"], "Knda"),
    (["kiratrai", "krai"], "Krai"),
    (["kaithi", "kthi"], "Kthi"),
    (["lana", "taitham"], "Lana"),
    (["lao", "laoo"], "Laoo"),
    (["latin", "latn"], "Latn"),
    (["lepc", "lepcha"], "Lepc"),
    (["limb", "limbu"], "Limb"),
    (["lina", "lineara"], "Lina"),
    (["linb", "linearb"], "Linb"),
    (["lisu"], "Lisu"),
    (["lyci", "lycian"], "Lyci"),
    (["lydi", "lydian"], "Lydi"),
    (["mahajani", "mahj"], "Mahj"),
    (["maka", "makasar"], "Maka"),
    (["mand", "mandaic"], "Mand"),
    (["mani", "manichaean"], "Mani"),
    (["marc", "marchen"], "Marc"),
    (["medefaidrin", "medf"], "Medf"),
    (["mend", "mendekikakui"], "Mend"),
    (["merc", "meroiticcursive"], "Merc"),
    (["mero", "meroitichieroglyphs"], "Mero"),
    (["malayalam", "mlym"], "Mlym"),
    (["modi"], "Modi"),
    (["mong", "mongolian"], "Mong"),
    (["mro", "mroo"], "Mroo"),
    (["meeteimayek", "mtei"], "Mtei"),
    (["mult", "multani"], "Mult"),
    (["myanmar", "mymr"], "Mymr"),
    (["nagm", "nagmundari"], "Nagm"),
    (["nand", "nandinagari"], "Nand"),
    (["narb", "oldnortharabian"], "Narb"),
    (["nabataean", "nbat"], "Nbat"),
    (["newa"], "Newa"),
    (["nko", "nkoo"], "Nkoo"),
    (["nshu", "nushu"], "Nshu"),
    (["ogam", "ogham"], "Ogam"),
    (["olchiki", "olck"], "Olck"),
    (["olonal", "onao"], "Onao"),
    (["oldturkic", "orkh"], "Orkh"),
    (["oriya", "orya"], "Orya"),
    (["osage", "osge"], "Osge"),
    (["osma", "osmanya"], "Osma"),
    (["olduyghur", "ougr"], "Ougr"),
    (["palm", "palmyrene"], "Palm"),
    (["pauc", "paucinhau"], "Pauc"),
    (["oldpermic", "perm"], "Perm"),
    (["phag", "phagspa"], "Phag"),
    (["inscriptionalpahlavi", "phli"], "Phli"),
    (["phlp", "psalterpahlavi"], "Phlp"),
    (["phnx", "phoenician"], "Phnx"),
    (["miao", "plrd"], "Plrd"),
    (["inscriptionalparthian", "prti"], "Prti"),
    (["rejang", "rjng"], "Rjng"),
    (["hanifirohingya", "rohg"], "Rohg"),
    (["runic", "runr"], "Runr"),
    (["samaritan", "samr"], "Samr"),
    (["oldsoutharabian", "sarb"], "Sarb"),
    (["saur", "saurashtra"], "Saur"),
    (["sgnw", "signwriting"], "Sgnw"),
    (["shavian", "shaw"], "Shaw"),
    (["sharada", "shrd"], "Shrd"),
    (["sidd", "siddham"], "Sidd"),
    (["khudawadi", "sind"], "Sind"),
    (["sinh", "sinhala"], "Sinh"),
    (["sogd", "sogdian"], "Sogd"),
    (["oldsogdian", "sogo"], "Sogo"),
    (["sora", "sorasompeng"], "Sora"),
    (["soyo", "soyombo"], "Soyo"),
    (["sund", "sundanese"], "Sund"),
    (["sunu", "sunuwar"], "Sunu"),
    (["sylo", "sylotinagri"], "Sylo"),
    (["syrc", "syriac"], "Syrc"),
    (["tagb", "tagbanwa"], "Tagb"),
    (["takr", "takri"], "Takr"),
    (["taile", "tale"], "Tale"),
    (["newtailue", "talu"], "Talu"),
    (["tamil", "taml"], "Taml"),
    (["tang", "tangut"], "Tang"),
    (["taiviet", "tavt"], "Tavt"),
    (["telu", "telugu"], "Telu"),
    (["tfng", "tifinagh"], "Tfng"),
    (["tagalog", "tglg"], "Tglg"),
    (["thaa", "thaana"], "Thaa"),
    (["thai"], "Thai"),
    (["tibetan", "tibt"], "Tibt"),
    (["tirh", "tirhuta"], "Tirh"),
    (["tangsa", "tnsa"], "Tnsa"),
    (["todhri", "todr"], "Todr"),
    (["toto"], "Toto"),
    (["tulutigalari", "tutg"], "Tutg"),
    (["ugar", "ugaritic"], "Ugar"),
    (["vai", "vaii"], "Vaii"),
    (["vith", "vithkuqi"], "Vith"),
    (["wara", "warangciti"], "Wara"),
    (["wancho", "wcho"], "Wcho"),
    (["oldpersian", "xpeo"], "Xpeo"),
    (["cuneiform", "xsux"], "Xsux"),
    (["yezi", "yezidi"], "Yezi"),
    (["yi", "yiii"], "Yiii"),
    (["zanabazarsquare", "zanb"], "Zanb"),
    (["inherited", "qaai", "zinh"], "Zinh"),
    (["common", "zyyy"], "Zyyy"),
    (["unknown", "zzzz"], "Zzzz")]

/-- The script of a name. -/
def script? (name : String) : Option String :=
  (scriptNames.find? fun row => row.1.contains name).map (·.2)

/-- The ranges of the characters of a script. -/
def scriptRanges (code : String) : List (Nat × Nat) :=
  scriptRuns.filterMap fun (lo, hi, c) => if c = code then some (lo, hi) else none

/-- The written form of the scripts that use characters of another script, or of none, see
`Table.runs`. The codes of several scripts stand one behind the other, and `Own` stands for the
script of the character. -/
def extensionTable : List String :=
  [
    "0Own n6Grek 1Own 2Grek 1Own tLatn dOwn 7nCyrlPerm 1CyrlGlag 1CyrlLatn 2CyrlGlag 1Own",
    "asArabNkooRohgSyrcThaaYezi 1Own eArabNkooRohgSyrcThaaYezi 1ArabSyrcThaa 1Own",
    "2AdlmArabNkooRohgSyrcThaaYezi 1Own wAdlmArabMandManiOugrPhlpRohgSogdSyrc 1Own aArabSyrc bOwn",
    "aArabThaaYezi aOwn 6ArabSyrc 1Own 2rArabRohg 1Own",
    "hoBengDevaGranGujrGuruKndaLatnMlymOryaShrdTamlTeluTirh",
    "1BengDevaGranGujrGuruKndaLatnMlymOryaTamlTeluTirh 1Own",
    "hBengDevaDogrGongGonmGranGujrGuruKndaMahjMlymNandOryaSindSinhSyloTakrTamlTeluTirh",
    "1BengDevaDogrGongGonmGranGujrGuruKndaLimbMahjMlymNandOryaSindSinhSyloTakrTamlTeluTirh",
    "1DevaDogrKthiMahj aOwn 3aBengCakmSylo aOwn 3aGuruMult aOwn 3aGujrKhoj aOwn 6uGranTaml eOwn",
    "6qKndaNand aOwn nkCakmMymrTale aOwn 4xGeorLatn 1Own 189BuhdHanoTagbTglg 2Own 5nMongPhag 2Own",
    "1MongPhag 1Own y2BengDevaGranKnda 1Deva 1BengDevaGranKnda 1DevaGran 1Deva 1BengDeva",
    "2DevaShrd 1BengDeva 1DevaShrd 1DevaKndaMlymOryaTamlTelu 1Deva 1DevaShrd 2Deva 2DevaShrd",
    "1BengDeva 1Deva 7DevaNand 1BengDeva 1Deva 2BengDeva 1Deva 4BengDevaGranKndaNandOryaTeluTirh",
    "1DevaGran 1DevaGranKnda 1BengDeva 2Beng 1DevaGran 2Nand 1Own 5hGrek 2Own 1iCyrlSyrc 1Own",
    "1Syrc 1Own foLatnMong 1Own 5cDevaGranLatn 1Own 2mqCyrlGlag 1Own cdBopoHangHaniHiraKanaYiii",
    "2BopoHangHaniHiraKana 1Own 2Hani 1Own 1BopoHangHaniHiraKanaYiii aOwn 1BopoHangHaniHiraKana",
    "1BopoHangHaniHiraKanaYiii 8BopoHangHaniHiraKana 4Own aBopoHani 4Own 2BopoHangHaniHiraKana",
    "1HiraKana 5Own 1BopoHangHaniHiraKana 1Own 4HaniHiraKana 2Hani 2Own 2hHiraKana 4Own 3HiraKana",
    "1Own 2iBopoHangHaniHiraKanaYiii 1HiraKana 1Own 43Hani gOwn wHani 10Own 1oHani 14Own 1kHani",
    "1dOwn fHani cOwn 1fHani 1Own 2gHani pOwn aHani 5Own 2oHani vOwn mlsCyrlGlag 1Own 40HaniLatn",
    "8Own 88DevaDogrGujrGuruKhojKndaKthiMahjMlymModiNandSindTakrTirh",
    "3DevaDogrGujrGuruKhojKndaKthiMahjModiNandSindTakrTirh",
    "3DevaDogrGujrGuruKhojKthiMahjModiSindTakrTirh 4Own 53BengDeva 1Own 1DevaTaml 1Own",
    "1mKaliLatnMymr 1Own 4gBugiJava 1Own ghaArabNkoo 2Own 4yArabThaa 1Own aArabThaa 1Own",
    "1zBopoHangHaniHiraKana 2Own 7uBopoHangHaniHiraKanaYiii 5Own aHiraKana 1Own 19HiraKana 2Own",
    "9sCpmnCprtLinb 2CprtLinb 1Own 4CprtLinaLinb 19Own 3CprtLinb 9Own bkArabCopt sOwn 1kmManiOugr",
    "1Own 1laGranTaml 1Own 1GranTaml 1Own 1jGranTaml 2Own 2hfGranTaml 2Own 1GranTaml 1Own uz0Dupl",
    "4Own 4hoHani iOwn 63iHani 2Own"]

/-- Codes of four letters that stand one behind the other. -/
def codes : List Char → List String
  | a :: b :: c :: d :: rest => String.ofList [a, b, c, d] :: codes rest
  | _ => []

/-- The characters that some scripts share, as first and last code point and scripts. -/
def sharedRuns : List (Nat × Nat × List String) :=
  (Table.runs extensionTable).filterMap fun (lo, hi, label) =>
    if label = "Own" then none else some (lo, hi, codes label.toList)

/-- The part of a range that lies outside of other ranges, which are in order. -/
def outside (lo hi : Nat) : List (Nat × Nat) → List (Nat × Nat)
  | [] => if lo ≤ hi then [(lo, hi)] else []
  | (a, b) :: rest =>
    if b < lo then outside lo hi rest
    else if hi < a then (if lo ≤ hi then [(lo, hi)] else [])
    else (if lo < a then [(lo, a - 1)] else []) ++ outside (b + 1) hi rest

/-- The ranges of the characters that a script uses: its own, unless other scripts share them, and
those that it shares. -/
def extensionRanges (code : String) : List (Nat × Nat) :=
  let shared := sharedRuns
  let others := shared.map fun (lo, hi, _) => (lo, hi)
  (scriptRanges code).flatMap (fun (lo, hi) => outside lo hi others) ++
    shared.filterMap fun (lo, hi, scripts) => if scripts.contains code then some (lo, hi) else none

end LintVerdict.Unicode
