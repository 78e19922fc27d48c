/-
This file holds the classes of characters by which texts are broken into clusters, words and
sentences.
-/

namespace ApiContract.Unicode

/-- The classes of characters at the borders of clusters: the long name, the other names and the
set. -/
def graphemeBreakTables : List (String × List String × String) := [
  ("control", ["cn"],
    "AJBBBR/CgBNAurBAxvEA8/BACBYGxBPv03BAwHL0hNPgjiBDvmFHl0rYfgD/DwHvwD"),
  ("cr", [],
    "NA"),
  ("extend", ["ex"],
    String.join [
      "gYvDzIGnIsBBABBBBBAoCKwBUQAlDGCFCBBDjBAea7CK6BIJAYDBIBCBErBC7BIqBXBf3BABAEHEADGKBdA6BABACD",
      "IAJAKBaACB5BAEBEBCCDAeBDALB5BAEEBBEAUBWFBA6BABBBDIAHCKBeA7BABAMAJAoBADA3BABCFCBDHBLBdA6BAC",
      "BBADCBDHBLBcB5BBBACDIAJAKBdAoCAEACCBAIAxCACGMHiDACILGpCBbABABA3BNBEBBFKBjBJAmDDBFBBCBZBECQ",
      "DNACBGAPA/VCydDcCdBeBgCBBGIACKJAtBCBA1DBiBA2DCEBJAGC7GBCA6BABGBABACHGJCAwBexBDwBJECmBIMBgB",
      "DCF4BABBDABE4BHCB4ECBMBGEAGADBmG/BsQAjGgB+/CCtEAgDfqRFpDB0udDBJgBBwCBwIADAEAZBFA3EBaRNAmBH",
      "ZKBAsBCwBACDCBCAkBAjCFCBCBMAIAvBAzBABCCBFBBAqBBIAuHACAEAw5TAhXPQPuLB9SAiHA1EEm0BCBBFDoBCEA",
      "lFB9RDhCE9JBvCDmCKxBD7DA2BOpBACBKCxBDCBHA9BCkBEBH+BAMB0BIBAIDCA/CCCDGACA9EADHVB5BBBABAMAJA",
      "OGDEjCACFBACABCECBAOB1CHCCBAXAxCACFBACABBBBrHACDGBBBbB1CHCABBqDABACHlDABACDBEjIIBB1HAKDEAw",
      "EDCBEAgBJoBFCDIAJFCCuBMBB2MGBFBAyCVCGBBBB6DFDABBBGBAoCBDABA7KBLB0BEFCXAlnFAGOomLLDCguCE7BG",
      "4gBA/BDxCALBrlTBhzEtBCW+QEDFIHCGeD0EC79B2BExBIAOAWEBOwqBGBQCGBBBEkDAgFG3LA9BD8PD+HBgXGtDGw",
      "1CEghjY/CgEvH"]),
  ("l", [],
    "goE/CggmBc"),
  ("lf", [],
    "KA"),
  ("lv", [],
    String.join [
      "ggrBAbAbAbAbAbAbAbAbAbAbAbAbAbAbAbAbAbAbAbAbAbAbAbAbAbAbAbAbAbAbAbAbAbAbAbAbAbAbAbAbAbAbAb",
      "AbAbAbAbAbAbAbAbAbAbAbAbAbAbAbAbAbAbAbAbAbAbAbAbAbAbAbAbAbAbAbAbAbAbAbAbAbAbAbAbAbAbAbAbAb",
      "AbAbAbAbAbAbAbAbAbAbAbAbAbAbAbAbAbAbAbAbAbAbAbAbAbAbAbAbAbAbAbAbAbAbAbAbAbAbAbAbAbAbAbAbAb",
      "AbAbAbAbAbAbAbAbAbAbAbAbAbAbAbAbAbAbAbAbAbAbAbAbAbAbAbAbAbAbAbAbAbAbAbAbAbAbAbAbAbAbAbAbAb",
      "AbAbAbAbAbAbAbAbAbAbAbAbAbAbAbAbAbAbAbAbAbAbAbAbAbAbAbAbAbAbAbAbAbAbAbAbAbAbAbAbAbAbAbAbAb",
      "AbAbAbAbAbAbAbAbAbAbAbAbAbAbAbAbAbAbAbAbAbAbAbAbAbAbAbAbAbAbAbAbAbAbAbAbAbAbAbAbAbAbAbAbAb",
      "AbAbAbAbAbAbAbAbAbAbAbAbAbAbAbAbAbAbAbAbAbAbAbAbAbAbAbAbAbAbAbAbAbAbAbAbAbAbAbAbAbAbAbAbAb",
      "AbAbAbAbAbAbAbAbAbAbAbAbAbAbAbAbAbAbAbAbAbAbAbAbAbAbAbAbAbAbAbAbAbAbAbAbAbAbAbAbAbAbAbAbAb",
      "AbAbAbAbAbAbAbAbAbAbAbAbAbAbAbAbAbAbAbAbAbAbAbAbAbAbAbAbAbAbAbAbAbAbAbAbAbAbAbAbA"]),
  ("lvt", [],
    String.join [
      "hgrBaBaBaBaBaBaBaBaBaBaBaBaBaBaBaBaBaBaBaBaBaBaBaBaBaBaBaBaBaBaBaBaBaBaBaBaBaBaBaBaBaBaBaB",
      "aBaBaBaBaBaBaBaBaBaBaBaBaBaBaBaBaBaBaBaBaBaBaBaBaBaBaBaBaBaBaBaBaBaBaBaBaBaBaBaBaBaBaBaBaB",
      "aBaBaBaBaBaBaBaBaBaBaBaBaBaBaBaBaBaBaBaBaBaBaBaBaBaBaBaBaBaBaBaBaBaBaBaBaBaBaBaBaBaBaBaBaB",
      "aBaBaBaBaBaBaBaBaBaBaBaBaBaBaBaBaBaBaBaBaBaBaBaBaBaBaBaBaBaBaBaBaBaBaBaBaBaBaBaBaBaBaBaBaB",
      "aBaBaBaBaBaBaBaBaBaBaBaBaBaBaBaBaBaBaBaBaBaBaBaBaBaBaBaBaBaBaBaBaBaBaBaBaBaBaBaBaBaBaBaBaB",
      "aBaBaBaBaBaBaBaBaBaBaBaBaBaBaBaBaBaBaBaBaBaBaBaBaBaBaBaBaBaBaBaBaBaBaBaBaBaBaBaBaBaBaBaBaB",
      "aBaBaBaBaBaBaBaBaBaBaBaBaBaBaBaBaBaBaBaBaBaBaBaBaBaBaBaBaBaBaBaBaBaBaBaBaBaBaBaBaBaBaBaBaB",
      "aBaBaBaBaBaBaBaBaBaBaBaBaBaBaBaBaBaBaBaBaBaBaBaBaBaBaBaBaBaBaBaBaBaBaBaBaBaBaBaBaBaBaBaBaB",
      "aBaBaBaBaBaBaBaBaBaBaBaBaBaBaBaBaBaBaBaBaBaBaBaBaBaBaBaBaBaBaBaBaBaBaBaBaBaBaBaBa"]),
  ("prepend", ["pp"],
    "gwBF3GAxBAgMBwCArjBAu7gCAPA0HBtQAtrBABA4HApCF8VA7NA"),
  ("regionalindicator", ["ri"],
    "mv8DZ"),
  ("spacingmark", ["sm"],
    String.join [
      "joCA3BACCIDBByBB7BBGBCB2BA6BCiCA6BCIABB1BB8BAGBCByDABBDCBC0BC9BD9BB6BACABBuBAOB7BBFCBC1BBs",
      "CBGGTB/BA/DAqEB/BAxFAJBZBsBAx5BAHHBB6KDCCEBBFgHB6BABAVFxEA5BDgCAeAEB/BACCBA1BHIBrFAVAr5iBB",
      "CA4CByBPuEAwBAwBBEBCBvDBCBYA9EACBFAtHBBBBBBAzgZABA/DAtBCEBzDAYB7BAwBCJAOA9CCDBsFCfB7BABDCB",
      "CBVB1CBPABBnDCIBDArDBGABBBACAuHBGDCAxDCIBBAtDABBuDAHAlICJA4HEBBHABAuECIDEA0CAdB+BA3MAOAqDA",
      "HACA1GEEBBA+KBMAwBBIBqvQCkxD2B"]),
  ("t", [],
    "otE3CruxBwB"),
  ("v", [],
    "grEnCowxBW8slBADD"),
  ("zwj", [],
    "tgIA")]

/-- The classes of characters at the borders of words: the long name, the other names and the set.
-/
def wordBreakTables : List (String × List String × String) := [
  ("aletter", ["le"],
    String.join [
      "hCZGZvBAKAEAFWBeB/OGhBwDEBBCDBAGABCBABTByCBqEIlFBlBCDBABoBBAoDAsBqBjBBBiDBAPBHBKCCAQABdd4C",
      "LAYgBJBEAFVEAJADAXYHKFXBFRpB6B1BDASAHJPPEHCBCVBGBADDDAQANBBCOBKAIFEBCVBGBBBBBBfDBATCQIBCBV",
      "BGBBBEDASAPBXALHCBCVBGBBBEDAeBBCPARABFDCBDDBBABBDBDCDLWA0BHBCBWBPDAaCCACBeAEHBCBWBJBEDAfBB",
      "BPBRIBCBoBCAQAFCICYFFRDXBIBACG5JA/BHBjBbEzIlBBAFACqBBsKBDCGBABDCoBBDCgBBDCGBABDCOB4BBDCiCl",
      "BPQ1CCFDrTCQBZFqCDKHRNSOROMBCvF4CHEChBBAFlCKehHWuHuBRH2BdNBKrBajBpBCKjBCKFqBCCpBDBFBBDAF/F",
      "gC1ICFClBCFCHBABABABeC0BBGBADCBGDDCFEMFCBG0DANAQMlDAEACJBADEGABABABDBKCDFEEARoBtZzB24BkHGD",
      "DBMlBBAFAC3BHAQWJGBGBGBGBGBGBGBGwCA1OA1BBoGqBB9CRfgybskBjCtBCsIDPKBUuBQeCvCYlGCBBABHVPBCBD",
      "BWdzBOxB+BFDABBLbKWZcHuBcAwBoBXCBH0EKHCMFCFCFJGBGB5BGyDdj9KMWEwBk4IGME4BhDhBqLS/BC1BoBL0DE",
      "BmEkBZGZlCeDFCFCFCCjBLBZBSBBBOCNiB6DlC0BrIcDwBvBfNdFlBKdCjBEHBEqB9ESjBEjBEnBIzBMKBOBGBBBKB",
      "OBGBBDzBM2JJVKHYFBpBBIlCFCABrBBBDACWKWJehCSBBKVKZmC3BGBgCAPDBCBcqBcDcjBHBbb1BKVKSNRuDoC3By",
      "BNyBNjBmBbJW6HpBGBQC7BcKAIVqBRuBUbWM0B5BBCANsBgBYajBdACAIiBDAMvBODVABAjBRBYTB/BGBABDBOBJHu",
      "BmBHCBCVBGBBBEDASAMEeJBACABlBBAZABAsB0BSDUCevBUBBA4FuBpBDkBvBUA7BqBNAnKrB0D/BfHCACHBBBXPAB",
      "A+CHCmBQABAcAKnBHAVALtBTASoCnGgBfIBkBRAxBdwDGBBBlBVAZFBBBfOAnKSPABMBhB8DAvC5cmDuDRjGsyCgDP",
      "vhBRFZ68DFmS51Gdi3B4RHeRuCRdSvBQDfUFSwNsBzG/BgEqCFAiCMgCBBA8gTqDFMDIHJm7F0CBmCBBCACBCDBLBA",
      "BGBgCBDCHBGBbBDBEBADGBzKCYBYBeBYBeBYBeBYBeBYBH05BeGFlI9ByEsBKGQAhKdSrBkPbkHdCAvPGBDBBBOBkG",
      "7BjCHA0lBDBaBBBACABJBDBABAGAEABABABCBBBACABABABABABBBACDBGBDBDBABJBQFCBEBQ0TZGZGZ"]),
  ("cr", [],
    "NA"),
  ("doublequote", ["dq"],
    "iBA"),
  ("extend", [],
    String.join [
      "gYvDzIGnIsBBABBBBBAoCKwBUQAlDGCFCBBDjBAea7CK6BIJAYDBIBCBErBC7BIqBXBgB2BCBRBGKBdC4BABGCBCCJ",
      "AKBaACC4BABEEBCCDAeBDALC4BABHBCBCUBWFBC4BABGCBCCHCKBeA7BEDCBDJAoBE3BABGBCBDHBLBdC4BABGBCBD",
      "HBLBPAMD3BBBGBCBDJAKBdCmCAEFBABHSB9BACGMHiDACILGpCBbABABAEBxBTBBFKBjBJAkDTXDECBCCGDDNLBAKD",
      "/VCydDcCdBeBgCfJAtBCBA1DBiBA2DLEL7GE5BJBcCAwBexBEvBQmBIMCeM4BNwBT4ECBUEAGACCmG/BsQAjGgB+/C",
      "CtEAgDfqRFpDB0udDBJgBBwCBwIADAEAXEEAzCByBRaRNAmBHZMsBDvBNkBAjCNMAIBtBCyBABCCBFBBApBEFBsHHB",
      "Bw5TAhXPQPuLB9SAiHA1EEm0BCBBFDoBCEAlFB9RDhCE9JBvCDmCKxBD6DC1BOpBACBKDtBKHA9BCkBNQBsBAMCwBN",
      "IDBB8CLGACA9ELVD3BBBGCBCCJAKBCGDEjCIBACABDBEBAOByCRXAxCTrHGCIbByCQqDMlDOgIO1HFBBCDBABBtEGC",
      "GDAcJoBGBDIAJKuBP1MHBHyCVBN6DFDABBBGBAiCEBBBE7KDJBBAwBGDEXAlnFAGOomLRguCE7BG4gBAB2BHDxCALB",
      "rlTBhzEtBCW+QEDFIHCGeD0EC79B2BExBIAOAWEBOwqBGBQCGBBBEkDAgFG3LA9BD8PD+HBgXGtDGw1CEghjY/CgEv",
      "H"]),
  ("extendnumlet", ["ex"],
    "/CAv+HAPBTA+u3BBYCvHA"),
  ("format", ["fo"],
    "tFAyqBFWAgGAxBAgMBwCAr5DA//BBaExBEBJv03BA5HChmEAPAi7IPgjiBDvmFHm0rYA"),
  ("hebrewletter", ["hl"],
    "wuBaEDqp9BABJBMBEBABBBBBJ"),
  ("katakana", ["ka"],
    "xhMElDBD6CBDwHPwGuBB3CugzB3ByisBDBGBBBA/ICyBAOD"),
  ("lf", [],
    "KA"),
  ("midletter", ["ml"],
    "6BA8DAvWA3OA0EAyxGArv3BAhCAkGA"),
  ("midnum", ["mn"],
    "sBAOAiaAqQAiEB+CArMAriGAru3BADA7BADA3FAOA"),
  ("midnumlet", ["mb"],
    "uBAp/HBKAtx3BA0FAGA"),
  ("newline", ["nl"],
    "LB4DAi9HB"),
  ("numeric", ["nu"],
    String.join [
      "wBJmxBJBAkEJmGJ8MJ2DJ2DJ2DJ2DJ2DJ2DJ2DJ2DJ2DJgDJ2DJmCJ2IJmCJm6BJmBJsJJgEJmFJGJ2FJ2CJmEJGJm",
      "uiBJmVJmBJmGJWJ2CJ2MJ24UJmsBJmkCJGJ8YJgEJ8BJwEJ2IJ2KJ2DJ2LJmDJGTsCJmNJmDJ2UJ2CJ2HJmCJmNJ2u",
      "QJmpCJ2CJmEJ2QJ27XJ02CxBgqCJmNJ2PJ3HJ1aJ20EJ"]),
  ("regionalindicator", ["ri"],
    "mv8DZ"),
  ("singlequote", ["sq"],
    "nBA"),
  ("wsegspace", [],
    "gBA/yFA/rCGBC0CAg9DA"),
  ("zwj", [],
    "tgIA")]

/-- The classes of characters at the borders of sentences: the long name, the other names and the
set. -/
def sentenceBreakTables : List (String × List String × String) := [
  ("aterm", ["at"],
    "uBA1/HAtx3BA7FA"),
  ("close", ["cl"],
    String.join [
      "iBAECxBABAdABAtBAPA+zDD96BB7rCHZBKB2BBOB5TDdBwhBFHNvCBfJzMV/BDgBBigBNOBCJYASHrNJCHBC+ozBB3",
      "GBcPCBQFpFBxBABAdABABBBBy49BC"]),
  ("cr", [],
    "NA"),
  ("extend", ["ex"],
    String.join [
      "gYvDzIGnIsBBABBBBBAoCKwBUQAlDGCFCBBDjBAea7CK6BIJAYDBIBCBErBC7BIqBXBgB2BCBRBGKBdC4BABGCBCCJ",
      "AKBaACC4BABEEBCCDAeBDALC4BABHBCBCUBWFBC4BABGCBCCHCKBeA7BEDCBDJAoBE3BABGBCBDHBLBdC4BABGBCBD",
      "HBLBPAMD3BBBGBCBDJAKBdCmCAEFBABHSB9BACGMHiDACILGpCBbABABAEBxBTBBFKBjBJAkDTXDECBCCGDDNLBAKD",
      "/VCydDcCdBeBgCfJAtBCBA1DBiBA2DLEL7GE5BJBcCAwBexBEvBQmBIMCeM4BNwBT4ECBUEAGACCmG/BsQBiGgB+/C",
      "CtEAgDfqRFpDB0udDBJgBBwCBwIADAEAXEEAzCByBRaRNAmBHZMsBDvBNkBAjCNMAIBtBCyBABCCBFBBApBEFBsHHB",
      "Bw5TAhXPQPuLB9SAiHA1EEm0BCBBFDoBCEAlFB9RDhCE9JBvCDmCKxBD6DC1BOpBACBKDtBKHA9BCkBNQBsBAMCwBN",
      "IDBB8CLGACA9ELVD3BBBGCBCCJAKBCGDEjCIBACABDBEBAOByCRXAxCTrHGCIbByCQqDMlDOgIO1HFBBCDBABBtEGC",
      "GDAcJoBGBDIAJKuBP1MHBHyCVBN6DFDABBBGBAiCEBBBE7KDJBBAwBGDEXAlnFAGOomLRguCE7BG4gBAB2BHDxCALB",
      "rlTBhzEtBCW+QEDFIHCGeD0EC79B2BExBIAOAWEBOwqBGBQCGBBBEkDAgFG3LA9BD8PD+HBgXGtDG12lY/CgEvH"]),
  ("format", ["fo"],
    "tFAyqBFWAgGAxBAgMBwCAr5DA8/BACBaExBEBJv03BA5HChmEAPAi7IPgjiBDvmFHm0rYA"),
  ("lf", [],
    "KA"),
  ("lower", ["lo"],
    String.join [
      "hDZvBAKAEAkBXBHBABABABABABABABABABABABABABABABABABABABABABABABABABABABBBABABABABABABABBBAB",
      "ABABABABABABABABABABABABABABABABABABABABABACABABCCABACADBEACADCCACABABACABBBACADABACBCCGAC",
      "ACABABABABABABABABBBABABABABABABABABBCABADABABABABABABABABABABABABABABABABABABABABABABABAB",
      "ABABABABABGCACBBAEABABABABkCBjBHBeEsEABADACDSAbiBBBDCBABABABABABABABABABABABEBACACBzBvBBAB",
      "ABABABABABABABABABABABABABABABAJABABABABABABABABABABABABABABABABABABABABABABABABABABACABAB",
      "ABABABABBBABABABABABABABABABABABABABABABABABABABABABABABABABABABABABABABABABABABABABABABAB",
      "ABABABABABABABAwBoBz7CA7XFikCIBA1D/FhCABABABABABABABABABABABABABABABABABABABABABABABABABAB",
      "ABABABABABABABABABABABABABABABABABABABABABABABABABABABABABABABABABABABABABABABABABABABABAB",
      "ABABABIBABABABABABABABABABABABABABABABABABABABABABABABABABABABABABABABABABABABABABABABABAB",
      "ABABABABABABABIIFKHIHIFKHIHINCHIHIHIEBBGADCBBIDCBIHKCBB5DANAQMtDADBDAbAEAEACBIDEAhBPEAraZm",
      "6BvBBADBBABABAEABBBHDABABABABABABABABABABABABABABABABABABABABABABABABABABABABABABABABABABA",
      "BABABABABABABABABABABABABABABBHABAEAMlBBAFAzoeABABABABABABABABABABABABABABABABABABABABABAB",
      "ATABABABABABABABABABABABABABClEABABABABABABCBABABABABABABABABABABABABABABABABABABABABABABA",
      "BABABABABABABABJBABACABABABABAEABACABCBABABABABABABABABABAFAFABABABABABABABAEABACADABABABA",
      "BABAWCBABC1ZqBBNGvCg6TGMEphBZtmBnBoEjB7EKBOBGBBjOACCBpBBIloByB9DV65CfgsVf6sZZaGBRaZaDBABGB",
      "KaZaZaZaZaZaZaZaZabcYBFaYBFaYBFaYBFaYBFBA05BJBTGFlI9B0lChB"]),
  ("numeric", ["nu"],
    String.join [
      "wBJmxBJBBjEJmGJ8MJ2DJ2DJ2DJ2DJ2DJ2DJ2DJ2DJ2DJgDJ2DJmCJ2IJmCJm6BJmBJsJJgEJmFJGJ2FJ2CJmEJGJm",
      "uiBJmVJmBJmGJWJ2CJ2MJ24UJmsBJmkCJGJ8YJgEJ8BJwEJ2IJ2KJ2DJ2LJmDJGTsCJmNJmDJ2UJ2CJ2HJmCJmNJ2u",
      "QJmpCJ2CJmEJ2QJ27XJ02CxBgqCJmNJ2PJ3HJ1aJ20EJ"]),
  ("oletter", ["le"],
    String.join [
      "7NAEDwGAkBGGLaABAlEAkPA2DaEEsBqBjBBBiDBAPBHBKCCAQABdd4CLAYgBJBEAFVEAJADAXYHKFXBFRpB6B1BDAS",
      "AHJPPEHCBCVBGBADDDAQANBBCOBKAIFEBCVBGBBBBBBfDBATCQIBCBVBGBBBEDASAPBXALHCBCVBGBBBEDAeBBCPAR",
      "ABFDCBDDBBABBDBDCDLWA0BHBCBWBPDAaCCACBeAEHBCBWBJBEDAfBBBPBRIBCBoBCAQAFCICYFFRDXBIBACG6BvBB",
      "BMG6BBBABEBXBABJBBJACEBAVDgBA/BHBjBbEzDqBUAQFEDDADBHCEMMAhCqBCrKBDCGBABDCoBBDCgBBDCGBABDCO",
      "B4BBDCiClBPxDrTCQBZFqCDKHRNSOROMBCPzBjBAEAjC4CHEChBBAFlCKexBdCELrBEZ2BWJ0ByCA9CuBRH2BdNBKr",
      "BajBpBCKjBSqBCCpBDBFBBDA6hBDnCCCDn9C3BHAQWJGBGBGBGBGBGBGBGwCA1OCZIHECEE1CGCB5CBDFqBB9CRfwB",
      "PgQ/tGgCs0VjCtBCsIDPKBiCAQAgBvCnBIoDAGAnDADGBCBDBWdzBOxB+BFDABBLbKWZcHuBcAQEBJKEBoBXCBHUWD",
      "ADxBBADBCECABAYCCKHCMFCFCFJGBGxEiBdj9KMWEwBkoItLCpDjCABJBMBEBABBBBBrDhBqLS/BC1BoBL0DEBmEpD",
      "3BCeDFCFCFCCjBLBZBSBBBOCNiB6DlC0BrIcDwBvBfNdFlBKdCjBEHBE6DtCiDnBIzB8CzBM2JJVKHZB9DFCABrBBB",
      "DACWKWJehCSBBKVKZmC3BGBgCAPDBCBcqBcDcjBHBbb1BKVKSNRuDoC3FjBmBFfAwIpBGBQC7BcKAIVqBRuBUbWM0B",
      "5BBCANsBgBYajBdACAIiBDAMvBODVABAjBRBYTB/BGBABDBOBJHuBmBHCBCVBGBBBEDASAMEeJBACABlBBAZABAsB0",
      "BSDUCevBUBBA4FuBpBDkBvBUA7BqBNAnCalBG5FrBzGHCACHBBBXPABA+CHCmBQABAcAKnBHAVALtBTASoCnGgBfIB",
      "kBRAxBdwDGBBBlBVAZFBBBfOAnKSPABMBhB8DAvC5cmDuDRjGsyCgDPvhBRFZ68DFmS51Gdi3B4RHeRuCRdSvBQDfU",
      "FSwNsBzMqCFAiCMgCBBAc3/FI1mBpBJn3IDBGBBBiJPAdCCAODIrMkoCqDFMDIHJwzIA1PsBKGQAhKdSrBkPbkHdCA",
      "vPGBDBBBOBkGmEA0lBDBaBBBACABJBDBABAGAEABABABCBBBACABABABABABBBACDBGBDBDBABJBQFCBEBQkqE/2pB",
      "gB5hEG9GCh0FOwpHPtTitC9QivBq6EF/iE"]),
  ("scontinue", ["sc"],
    "sBBMAipBAuFBqPApgEAFAqgCBs/DAuwzBBBAdBdBDACAKAoFBMApCA"),
  ("sep", ["se"],
    "lEAi9HB"),
  ("sp", ["sp"],
    "JABBTA/DA/uFA/rCKkBAvBAg9DA"),
  ("sterm", ["st"],
    String.join [
      "hBAdApqBAzEC0FArBC2HA9BABADBlJBk3BB2YAEBlYAmGB9EBtBAFA6JBiLDiFBKBCBdC7FBhCB8dBJCvlDCyJANAW",
      "BtNA8ndAuIBjHADA+LB2CB/CA4EBzECwEB5HAmxUACB/BBpFAdAhCA03CB9nBEsBD9FB1DD/DChEBGAQB4CBBBsDAq",
      "JB1DB1LBFOpDB5HClQABA7HB3CBkNB0VBqCBp5SBlEAhCBLApRBoJAmwTAovHA"]),
  ("upper", ["up"],
    String.join [
      "hCZlDWBGhBABABABABABABABABABABABABABABABABABABABABABABABABABABABACABABABABABABABACABABABAB",
      "ABABABABABABABABABABABABABABABABABABABBBABADBBABBBCCDBBBCDBBBBABABBBACABBBCBABBDAHBBBBBBAB",
      "ABABABABABABACABABABABABABABABACBBABCBABABABABABABABABABABABABABABABABABABABABABABABABABAB",
      "ABABAHBBBCABDBABABABAhJABADAIAGABCBABBBQBIjBACCDABABABABABABABABABABABAFACABBCyBwBABABABAB",
      "ABABABABABABABABABABABABAJABABABABABABABABABABABABABABABABABABABABABABABABABABABBBABABABAB",
      "ABACABABABABABABABABABABABABABABABABABABABABABABABABABABABABABABABABABABABABABABABABABABAB",
      "ABABABABAClBp6ClBBAFAyW1CzkCA2LABABABABABABABABABABABABABABABABABABABABABABABABABABABABABA",
      "BABABABABABABABABABABABABABABABABABABABABABABABABABABABABABABABABABABABABABABABABABABABABA",
      "JABABABABABABABABABABABABABABABABABABABABABABABABABABABABABABABABABABABABABABABABABABABABA",
      "BABABABAJHIFKHIHIFLABABABAIHYHIHIHIELELDMELElIAEADCCCCADEGABABABDCDKBFAaPTAyZZw5BvBwBABCCA",
      "BABABDBACAICBABABABABABABABABABABABABABABABABABABABABABABABABABABABABABABABABABABABABABABA",
      "BABABABABABABABABABAIABAEAtqeABABABABABABABABABABABABABABABABABABABABABABATABABABABABABABA",
      "BABABABABABAnEABABABABABABADABABABABABABABABABABABABABABABABABABABABABABABABABABABABABABAK",
      "ABABBBABABABAEABACABADABABABABABABABABABABEBEBABABABABABABABDBABBDAFABABABAYAr5VZlmBnBoEjB",
      "8EKBOBGBBq3ByB9EV65CfgsVfgtZZaZaZaABBCACBCDBHaZaBBDCHBGbBBDBEBADGbZaZaZaZaZaZeYhBYhBYhBYhB",
      "YhBA1pEhBugCZGZGZ"])]

end ApiContract.Unicode
