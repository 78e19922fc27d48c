/-
This file holds the characters that are alphabetic or join the character before them, beyond what
their categories tell.
-/

namespace ApiContract.Unicode

/-- Alphabetic characters that are neither letters nor letter numbers. -/
def otherAlphabeticTable : String := String.join [
  "laAdMgSNBABBBBBAoCKwBMBGQAlDGEDCBEAjBAePmDKlDBDIBCBDqDA8BLDGGT2BBCOBBFCKBdC6BGCBCBKAKBdC6BEEB",
  "CBEAeBDALC6BHBCBBVBWCEC6BGCBCBJBKBeA7BEDCBCKAoBE5BGBCBCIBLBdC6BGBCBCIBLBPAMD6BGBCBCKAKBdCrCFB",
  "ABHSB9BACGSAjDACFBBQAjFSJKBjBuDLBACDXDECBCCGDDNLBAKD0zBBeBeBeBiCS8FBiBA2DLEI+GE5BJCTqCBLCxBEw",
  "BO8BCeICB5BKyBS8MhBh2BzB2nCf0jeHiBBiLAIAXE4CByBPBA5BAmBEcLtBDwBLlBAjCNMAIBtBCyBABCCBFAsBEFAtH",
  "Hz5TA3iCEm0BCBBFD0YDhCAhKBtCCjIC1BNtBBLCtBIJA9BCkBLSB5BCwBMOB8CICAGACA9EJXD6BGCBCBKAKB0CIBACA",
  "BDBBnDMBCqDRtHGCGdByCOBAqDKnDNhIM3HFBBCBDABAuEGCFEAcJqBEBDSKuBNoGHnGHBGzCVBN6DFDABBBCBADAiCEB",
  "BBD8KDJBBAwBGDC9uQQgxDAB2BHD9CBslTAh7IGBQCGBBBEkDAzyBACAHBFAxSAo/BZGZGZ"]

/-- Characters that join the one before them though their category does not tell so. -/
def otherExtendTable : String := String.join [
  "+tCAYAmLAYAmDAYAoHABAEBBBJBnDAYA3DAPA1pCAeAggBAFABAFBlDAnCB4gBAhhEBjpeAsDA9uVBgxEA0DAoIAOAJAg",
  "DAJACABCFAgHAMAxHAmIA5TAMAjwBAulUBzrYBGFt1rY/C"]

end ApiContract.Unicode
