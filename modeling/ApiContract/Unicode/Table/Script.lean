/-
This file holds the scripts: the long name, the other names, the characters of the script, and
characters of no single script that it uses too.
-/

namespace ApiContract.Unicode

/-- The scripts, in the order of their short names. -/
def scriptTables : List (String × List String × String × String) := [
  ("adlam", ["adlm"],
    "go6DrCEJEB",
    "/wBAgBAuwGAxvDA"),
  ("caucasianalbanian", ["aghb"],
    "wphCzBLA",
    "kYAsBAsBA"),
  ("ahom", [],
    "g4lCaCOEW",
    ""),
  ("arabic", ["arab"],
    String.join [
      "gwBEBFBNBCBfBJLZBrDBhBwCvBwHeBBFqCBcwy8ByDQqLCvCC1BHAgBPwDEBmEj7DejCC3BDg43BDBaBBBACABJBDB",
      "ABAGAEABABABCBBBACABABABABABBBACDBGBDBDBABJBQFCBEBQ0BB"],
    "swBAOADAgBAKKaA+uGAxvDA83zBBgtBb"),
  ("imperialaramaic", ["armi"],
    "giiCVBI",
    ""),
  ("armenian", ["armn"],
    "xpBlBCxBCCjs9BE",
    "oYA"),
  ("avestan", ["avst"],
    "g4iC1BDG",
    "3FA4rLB"),
  ("balinese", ["bali"],
    "g4GsCBxB",
    ""),
  ("bamum", ["bamu"],
    "g1pB3CoowB4R",
    ""),
  ("bassavah", ["bass"],
    "w26CdCF",
    ""),
  ("batak", ["batk"],
    "g+GzBID",
    ""),
  ("bengali", ["beng"],
    "gsCDBHCBCVBGBADDCICBCDIAEBBECY",
    "8VA00BBRBq7EABACBBAIAIACAEACC5/iBA"),
  ("bhaiksuki", ["bhks"],
    "ggnCIBsBBNKc",
    ""),
  ("bopomofo", ["bopo"],
    "qXB5wLqBwDf",
    "nWABCNAnpLCEJBMKDCAGAjGApqzBB6IE"),
  ("brahmi", ["brah"],
    "ggkCtCEjBJA",
    ""),
  ("braille", ["brai"],
    "ggK/H",
    ""),
  ("buginese", ["bugi"],
    "gwGbCB",
    "vuqBA"),
  ("buhid", ["buhd"],
    "g6FT",
    "15FB"),
  ("chakma", ["cakm"],
    "gokC0BBR",
    "mvCJwyBJ"),
  ("canadianaboriginal", ["cans"],
    "ggF/TwRlC6tgCP",
    ""),
  ("carian", ["cari"],
    "g1gCwB",
    "3FAi9HACAzuDA"),
  ("cham", [],
    "gwqB2BJNCJCD",
    ""),
  ("cherokee", ["cher"],
    "g9E1CCFy7lBvC",
    "gYCBAGBWBLB"),
  ("chorasmian", ["chrs"],
    "w9jCb",
    ""),
  ("coptic", ["copt", "qaac"],
    "ifNwkKzDFG",
    "3FAoSADBBAsDBh1KAom1Bb"),
  ("cyprominoan", ["cpmn"],
    "w8rCiD",
    "gogCB"),
  ("cypriot", ["cprt"],
    "ggiCFCABrBBBDACA",
    "gogCCEsBDI"),
  ("cyrillic", ["cyrl"],
    "ggBkECoFw6FKgFAsCAnjEfgie/Cu8VBgw4B9BhBA",
    "8VAjCCBABABACAFAzLBxrGAqiEA"),
  ("devanagari", ["deva"],
    "goCwCEOCZg7nBfgwcJ",
    "8VA00BBRBq7EmBBB2fA/5hBJ"),
  ("divesakuru", ["diak"],
    "gomCGCACHBBBdBBCLJJ",
    ""),
  ("dogra", ["dogr"],
    "ggmC7B",
    "krCLg2nBJ"),
  ("deseret", ["dsrt"],
    "gghCvC",
    ""),
  ("duployan", ["dupl"],
    "ggvDqDFMDIHJCD",
    "3FAvSBBAYB34KAjzjDD"),
  ("egyptianhieroglyphs", ["egyp"],
    "ggsC1iBK68D",
    ""),
  ("elbasan", ["elba"],
    "gohCnB",
    "3FAtSA"),
  ("elymaic", ["elym"],
    "g/jCW",
    ""),
  ("ethiopic", ["ethi"],
    "gwEoCBDCGBABDCoBBDCgBBDCGBABDCOB4BBDCiCCfDZmvGWJGBGBGBGBGBGBGBGipfFCFCFJGBGxlvCGBDBBBO",
    "uYA"),
  ("georgian", ["geor"],
    "glElBBAFACqBBDw8CqBCCgiElBBAFA",
    "3FAxmBAx7CA+6DA2uDA"),
  ("glagolitic", ["glag"],
    "ggL/Cg9sDGBQCGBBBE",
    "3FArSABA+LACAhIAx7CA+6DAovDArheA"),
  ("gunjalagondi", ["gong"],
    "grnCFBBBkBBBBFHJ",
    "3FAslCB"),
  ("masaramgondi", ["gonm"],
    "gonCGBBBrBDABBBIIJ",
    "krCB"),
  ("gothic", ["goth"],
    "w5gCa",
    "3FAsSBCAoBA"),
  ("grantha", ["gran"],
    "g4kCDBHCBCVBGBBBECICBCCCAGAFGCGDE",
    "xqCBRBgUN8mEABBeCDB2fAqy8BA0kDBBA"),
  ("greek", ["grek"],
    String.join [
      "wbDBCCDBAEABABCBABTB+BOPmpGEyBEEE0CAgKVCFClBCFCHBABABABeC0BBOBNCFBSCCBInJA+xiBA6uVuCRA/i0B",
      "lC"],
    "3FAoSBCABABAKAuBACAuBAryGB7UA"),
  ("gujarati", ["gujr"],
    "h0CCBIBCBVBGBBBECJBCBCCAPDCLHG",
    "xqCBRBq2nBJ"),
  ("gurmukhi", ["guru"],
    "hwCCBFEBCVBGBBBBBBCABEEBCCDAHDBAHQ",
    "xqCBRBq2nBJ"),
  ("hangul", ["hang"],
    "goE/HuxHBhI9CxDehCeh3dcjUj9KMWEwBk9JeDFCFCFCC",
    "hgMCEJBMQAGAjGApqzBB6IE"),
  ("han", ["hani"],
    "g0LZB4CM1GvBABAZIODke/tGgC/vUgoWtLCpDoodBMBugkB/2pBgB5hEG9GCh0FOwpHPtTitC9QivBq6EF/iE",
    "3FA45LPBCCABJBMKDCAGAED7FA0EPgBlBJAwBnB4BwBPLzBA4CYKEgDeh4cH95VB6IE6/0BR+2HB"),
  ("hanunoo", ["hano"],
    "g5FU",
    "15FB"),
  ("hatran", ["hatr"],
    "gniCSBBFE",
    ""),
  ("hebrew", ["hebr"],
    "xsB2BIaEFop9BZBEBABBBBBJ",
    "nYB"),
  ("hiragana", ["hira"],
    "hiM1CGCh7/C+ISAdCtlQA",
    "hgMCEJBMQFBAEB7CDDA6CBoqzBB6IEKAtBB"),
  ("anatolianhieroglyphs", ["hluw"],
    "ggxCmS",
    ""),
  ("pahawhhmong", ["hmng"],
    "g46ClCKJBGBUFS",
    ""),
  ("nyiakengpuachuehmong", ["hmnp"],
    "go4DsBDNCJEB",
    ""),
  ("oldhungarian", ["hung"],
    "gkjCyBNyBHF",
    "6iIACAzuDAPA"),
  ("olditalic", ["ital"],
    "g4gCjBJC",
    ""),
  ("javanese", ["java"],
    "gsqBtCCJEB",
    "vuqBA"),
  ("kayahli", ["kali"],
    "goqBtBBA",
    "upqBA"),
  ("katakana", ["kana"],
    "hlM5CCCwHPwGuBB3CugzBJBsByisBDBGBBBA/ICyBAOD",
    "lYAdA9mLCEJBMQFBAEB7CDDA6CBoqzBB6IEKAtBB"),
  ("kawi", [],
    "g4nCQBoBDc",
    ""),
  ("kharoshthi", ["khar"],
    "gwiCDBBFHBCBcCCEJHI",
    ""),
  ("khmer", ["khmr"],
    "g8F9CCJGJmPf",
    ""),
  ("khojki", ["khoj"],
    "gwkCRBuB",
    "m3CJgqnBJ"),
  ("khitansmallscript", ["kits"],
    "k/7CA74G1OpBA",
    ""),
  ("kannada", ["knda"],
    "gkDMBCBWBJBECIBCBDHBGBBDCJBC",
    "xqCBRBq7EABBGAXABA75iBF"),
  ("kaithi", ["kthi"],
    "gkkCiCKA",
    "mrCJhmJA+veJ"),
  ("taitham", ["lana"],
    "gxG+BBcCKGJGN",
    ""),
  ("lao", ["laoo"],
    "h0DBBABEBXBABWCEBABGBJCD",
    ""),
  ("latin", ["latn"],
    String.join [
      "hCZGZvBAPAFWBeBgOnBE7wGlBGwBFDFMBlChC/HxLANAQMtEBGAbARoB32Cfi1elDDiCCBBABHVNwZqBBIBD28TG6g",
      "BZGZlhCFBpBBIl61BeGF"],
    "3FAkQAKABCBAJABAmBOBBBAPCHBBBmBAFAEM1IBqmBBo9BA8nDA2RAgGAmpDAoneHmRA"),
  ("lepcha", ["lepc"],
    "ggH3BDODC",
    ""),
  ("limbu", ["limb"],
    "goGeBLELEADL",
    "lrCA"),
  ("lineara", ["lina"],
    "gwhC2JJVKH",
    "nogCsB"),
  ("linearb", ["linb"],
    "gggCLBZBSBBBOCNiB6D",
    "gogCCEsBDI"),
  ("lisu", [],
    "wmpBvBw1eA",
    "8VAQA8pLB"),
  ("lycian", ["lyci"],
    "g0gCc",
    "6iIA"),
  ("lydian", ["lydi"],
    "gpiCZFA",
    "3FA5rLA"),
  ("mahajani", ["mahj"],
    "wqkCmB",
    "3FAslCLg2nBJ"),
  ("makasar", ["maka"],
    "g3nCY",
    ""),
  ("mandaic", ["mand"],
    "giCbCA",
    "gyBA"),
  ("manichaean", ["mani"],
    "g2iCmBEL",
    "gyBA"),
  ("marchen", ["marc"],
    "wjnCfCVBN",
    ""),
  ("medefaidrin", ["medf"],
    "gy7C6C",
    ""),
  ("mendekikakui", ["mend"],
    "gg6DkGCP",
    ""),
  ("meroiticcursive", ["merc"],
    "gtiCXETCtB",
    ""),
  ("meroitichieroglyphs", ["mero"],
    "gsiCf",
    "9iIA"),
  ("malayalam", ["mlym"],
    "goDMBCByBBCBFEPCZ",
    "xqCBRB07EAXA95iBC"),
  ("modi", [],
    "gwlCkCLJ",
    "whqBJ"),
  ("mongolian", ["mong"],
    "ggGBCABTG4CHqB1t/BM",
    "igGBBAphCAx+DBFD"),
  ("mro", ["mroo"],
    "gy6CeBJEB",
    ""),
  ("meeteimayek", ["mtei"],
    "g3qBWpGtBCJ",
    ""),
  ("multani", ["mult"],
    "g0kCGBABDBOBK",
    "mzCJ"),
  ("myanmar", ["mymr"],
    "ggE/EgqmBehDfwibT",
    "upqBA"),
  ("nagmundari", ["nagm"],
    "wm5DpB",
    ""),
  ("nandinagari", ["nand"],
    "gtmCHCtBCK",
    "xqCASBgcJ5/DAIAHA15iBF"),
  ("oldnortharabian", ["narb"],
    "g0iCf",
    ""),
  ("nabataean", ["nbat"],
    "gkiCeII",
    ""),
  ("newa", [],
    "gglC7CBE",
    "xqCBi8EABBJAGABABA"),
  ("nko", ["nkoo"],
    "g+B6BCC",
    "swBAOADA+49BB"),
  ("nushu", ["nshu"],
    "h/7CAusQrM",
    ""),
  ("ogham", ["ogam"],
    "g0Fc",
    ""),
  ("olchiki", ["olck"],
    "wiHvB",
    ""),
  ("oldturkic", ["orkh"],
    "ggjCoC",
    "6iIA1uDA"),
  ("oriya", ["orya"],
    "h4CCBHCBCVBGBBBECICBCCHCEBBECR",
    "xqCBRB07EAXA"),
  ("osage", ["osge"],
    "wlhCjBEjB",
    "hYACAGAsCA"),
  ("osmanya", ["osma"],
    "gkhCdCJ",
    ""),
  ("olduyghur", ["ougr"],
    "w7jCZ",
    "gyBAxlhCA"),
  ("palmyrene", ["palm"],
    "gjiCf",
    ""),
  ("paucinhau", ["pauc"],
    "g2mC4B",
    ""),
  ("oldpermic", ["perm"],
    "w6gCqB",
    "3FAoSAFCKAvLA"),
  ("phagspa", ["phag"],
    "giqB3B",
    "igGBBAphCAy+DA"),
  ("inscriptionalpahlavi", ["phli"],
    "g7iCSFH",
    ""),
  ("psalterpahlavi", ["phlp"],
    "g8iCRHDMG",
    "gyBA"),
  ("phoenician", ["phnx"],
    "goiCbDA",
    ""),
  ("miao", ["plrd"],
    "g47CqCE4BHQ",
    ""),
  ("inscriptionalparthian", ["prti"],
    "g6iCVCH",
    ""),
  ("rejang", ["rjng"],
    "wpqBjBLA",
    ""),
  ("hanifirohingya", ["rohg"],
    "gojCnBIJ",
    "swBAOADAgBAzEA"),
  ("runic", ["runr"],
    "g1FqCDK",
    "r3FC"),
  ("samaritan", ["samr"],
    "ggCtBCO",
    "xxLA"),
  ("oldsoutharabian", ["sarb"],
    "gziCf",
    ""),
  ("saurashtra", ["saur"],
    "gkqBlCIL",
    ""),
  ("signwriting", ["sgnw"],
    "gg2DrUPEBO",
    ""),
  ("shavian", ["shaw"],
    "wihCvB",
    "3FA"),
  ("sharada", ["shrd"],
    "gskC/C",
    "xqCAl8EABACBCAJACAi6iBFCA"),
  ("siddham", ["sidd"],
    "gslC1BClB",
    ""),
  ("khudawadi", ["sind"],
    "w1kC6BFJ",
    "krCBq2nBJ"),
  ("sinhala", ["sinh"],
    "hsDCBRDXBIBACGDAEFBABHGJCCs/gCT",
    "krCBs8EA"),
  ("sogdian", ["sogd"],
    "w5jCpB",
    "gyBA"),
  ("oldsogdian", ["sogo"],
    "g4jCnB",
    ""),
  ("sorasompeng", ["sora"],
    "wmkCYHJ",
    ""),
  ("soyombo", ["soyo"],
    "wymCyC",
    ""),
  ("sundanese", ["sund"],
    "g8G/BgIH",
    ""),
  ("sylotinagri", ["sylo"],
    "ggqBsB",
    "krCBgEJ"),
  ("syriac", ["syrc"],
    "g4BNB7BCCwIK",
    "jYBCBBAYCHBBB6WAOBCAgBAKKaAn8FABA"),
  ("tagbanwa", ["tagb"],
    "g7FMBCBB",
    "15FB"),
  ("takri", ["takr"],
    "g0lC5BGJ",
    "krCBq2nBJ"),
  ("taile", ["tale"],
    "wqGdCE",
    "gYBFBDAzpDJ"),
  ("newtailue", ["talu"],
    "gsGrBEZGKDB",
    ""),
  ("tamil", ["taml"],
    "i8CBBFDCBDDBBABBDBDCDLEEDCBDCAGAOUl+kCxBNA",
    "xqCBRB07EA4gjBAtwaABA3BB"),
  ("tangut", ["tang"],
    "g/7CAf3/FI/XgQI",
    "w/LPvPA"),
  ("taiviet", ["tavt"],
    "g0qBiCYE",
    ""),
  ("telugu", ["telu"],
    "ggDMBCBWBPCIBCBDHBBCCACDCJHI",
    "xqCBRBv7EBBABAXA"),
  ("tifinagh", ["tfng"],
    "wpL3BHBOA",
    "iYABABDZA"),
  ("tagalog", ["tglg"],
    "g4FVJA",
    "15FB"),
  ("thaana", ["thaa"],
    "g8BxB",
    "swBAOBCAgCJo89BAKA"),
  ("thai", [],
    "hwD5BFb",
    "8VAaArBAtBA"),
  ("tibetan", ["tibt"],
    "g4DnCBjBEmBBjBBOBGEB",
    "ogMD"),
  ("tirhuta", ["tirh"],
    "gklCnCIJ",
    "xqCBRBv7EAMAPA95iBJ"),
  ("tangsa", ["tnsa"],
    "wz6CuCBJ",
    ""),
  ("toto", [],
    "w04De",
    "8VA"),
  ("ugaritic", ["ugar"],
    "g8gCdBA",
    ""),
  ("vai", ["vaii"],
    "gopBrJ",
    ""),
  ("vithkuqi", ["vith"],
    "wrhCKBOBGBBBKBOBGBB",
    ""),
  ("warangciti", ["wara"],
    "glmCyCMA",
    ""),
  ("wancho", ["wcho"],
    "g24D5BFA",
    ""),
  ("oldpersian", ["xpeo"],
    "g9gCjBEN",
    ""),
  ("cuneiform", ["xsux"],
    "ggoC5cmDuDBELjG",
    ""),
  ("yezidi", ["yezi"],
    "g0jCpBBCCB",
    "swBAOADAgCJ"),
  ("yi", ["yiii"],
    "ggoBskBD2B",
    "hgMBFJCH/GAlzzBE"),
  ("zanabazarsquare", ["zanb"],
    "gwmCnC",
    ""),
  ("inherited", ["zinh", "qaai"],
    String.join [
      "gYvD1IBkOKaAgXD7qEehQCBMBGEAGADBmG/BsQBiGgB55DDrDBlrzBPQNveAiHA6iEAk+uBtBCWgRCRHCGeDy6rYvH"],
    ""),
  ("common", ["zyyy"],
    String.join [
      "AgCaFauBBOBEXAfAhOmBFECT0DAJAGABA9TAGAOADAgBA8EAkQAhEB5mBA1MDiJAvvBCnCBrGBBAtmBANAHDBFBCCA",
      "lYLC2CBKDKBORgB/BlBBCCFBaBQpBCE5UWKV/cgIzTCfBoDgQ9CyMUBABYPHED7CBDA6CBzEPgBlBJAwB/BfwCvBA4",
      "CnFguG/BgoWhBmDClFJ0HAgFArMAOByuUBwGJWiBBSBDzEABfaFaKKAtBBgCGBGKEiICEsBDIwCMzBsBkHaktuBD86",
      "D5HGzN8EzD8B1HKmBC9BDQIBHdE8B1GTMTM2CJYnE0CBmCBBCACBCDBLBABGBgCBDCHBGBbBDBEBADGBzKCjJCxBxj",
      "FjCsC8BiWrBEjDMOCOBOBkBKtF4BZBBNrBEIHBOF6E3eEQDMD2DE+CGLEAPLE3BIJGnBIdCLEB+BzKMNCMDJF3BHOC",
      "KGIHyEBlDnghYAe/C"],
    ""),
  ("garay", ["gara"],
    "gqjClBDcIB",
    "swBAOADA"),
  ("gurungkhema", ["gukh"],
    "go4C5B",
    "lrCA"),
  ("kiratrai", ["krai"],
    "gq7C5B",
    ""),
  ("olonal", ["onao"],
    "wu5DqBEA",
    "krCB"),
  ("sunuwar", ["sunu"],
    "g+mChBOJ",
    "gYBBAJACAcADA"),
  ("todhri", ["todr"],
    "guhCzB",
    "hYACACAJABAqCA"),
  ("tulutigalari", ["tutg"],
    "g8kCJBACABlBBJBACABDBJBBIB",
    "mnDJigEABA75iBF7FA")]

end ApiContract.Unicode
