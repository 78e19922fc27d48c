/-
This file holds the mappings of characters between cases. A run of characters that move by one
distance is written as the distance to the end of the last run, twice the number of further
characters, plus one if only every other character moves, and the signed distance.
-/

namespace ApiContract.Unicode

/-- The upper-case mappings beyond ASCII that give one character. -/
def upperTable : String := String.join [
  "1FAuuBqBsB/BBM/BAAyHBvBBBAvOBFBCPBCtBBCFBAA3SAAmMCDBCABDABFABCAiGDABAAmKAAikzCCAkICFBCABEABCA",
  "BDDBCABDABBAwDFABAADBABAADBABAADBPBAA9EBRBCABAADBABDnBBDRBIABCC+jVBABEJBAA+hVAA4hVAA8hVAAjNAA",
  "7MBC5MBAzMBA1MAA+0yCDA5MAA20yCBA9MAAu2yCAAwyyCAAo0yCBAhNAAlNAAo0yCAAu/UAAi0yCCAlNBA6/UAApNCAr",
  "NHAu+UCAzNBAm0yCAAzNDA0yyCAAzNAApEACxNAAtEFA1NKAqxyCAAkxyCmFAoFrBDBDABDEkIuBArCAEpCBgB/BAA9BA",
  "Q/BAA/DAC9DBA7DAAxDDA9CAArDAAPBXBAArFAA/EAAOAAnHBA/FCABCAB0B+B/BAe/EBhBBJ1BBCNBAAdB/CBxBqC/Cp",
  "6C0Cg8FCEg8F4XKPikCA7mMAA5mMAAnmMACjmMAAlmMAA3lMAApiMAAk8kCBABuHAoglCDAsuHQAwjlCyD1EBFA1DF/CB",
  "AOQIKQKOQIOQIKQLHQIOQIC0EAGsFACoGACgIACgHAC8HyBCQMApiORCQOCQDAOoLA3BhBefEABrayBzBm6B+C/CBABDA",
  "1iVAAviVBFBGABCABKjDBIDBEABMqC/lOBA/lOFA/lOzoetBBTbBnENBD9BBKDBCJBEABEDBAAgDCTBLPBEDBCPBaAB8a",
  "A/5Bc+E/8rCh8UyB/BtmBuCvCoEmCvC7EUtCBctCBMtCBCtCj4BkD/D9DqB/B65C+B/BgsV+B/B7BwB1BuyeiCjC"]

/-- The upper-case mappings that give several characters: the distance, the length and the
characters. -/
def upperSequenceTable : String := String.join [
  "/GCzCzCpDC8VuCmFCqCsY/MD5coYhYfDldoYhY2OC1pByqBuoGCoCxZAC0CoYAC3CqYAC5CqYAChC+V1FCldzYBDldzYg",
  "YBDldzYhYBDldzYiapBCo4H5cACp4H5cACq4H5cACr4H5cACs4H5cACt4H5cACu4H5cACv4H5cACo4H5cACp4H5cACq4H",
  "5cACr4H5cACs4H5cACt4H5cACu4H5cACv4H5cACo5H5cACp5H5cACq5H5cACr5H5cACs5H5cACt5H5cACu5H5cACv5H5c",
  "ACo5H5cACp5H5cACq5H5cACr5H5cACs5H5cACt5H5cACu5H5cACv5H5cACo7H5cACp7H5cACq7H5cACr7H5cACs7H5cAC",
  "t7H5cACu7H5cACv7H5cACo7H5cACp7H5cACq7H5cACr7H5cACs7H5cACt7H5cACu7H5cACv7H5cCC69H5cACxc5cACmc5",
  "cBCxciaADxcia5cECxc5cFCq+H5cAC3c5cACpc5cBC3ciaAD3cia5cEC3c5cFD5coYgYAD5coYhYCC5ciaAD5coYiaKDl",
  "doYgYADldoYhYAChdzYBCldiaADldoYiaKC6/H5cACpd5cACvc5cBCpdiaADpdia5cECpd5cj42BCmCmCACmCpCACmCsC",
  "ADmCmCpCADmCmCsCACzC0CACzC0CMCkqBmqBACkqB1pBACkqB7pBACuqBmqBACkqB9pB"]

/-- The mappings of characters to the one that stands for all that differ only in case. -/
def foldTable : String := String.join [
  "hCyBgC6CAuwBKsBgCBMgChBvBCDFCCPCCtBCBAxHAFCBA3QBAkNADCBA8MAACBC6MAACCA+EAA0MAA2MAACBA6MAA+MBA",
  "mNAAiNAACDAmNAAqNBAsNAFCBA0NAACBA0NCACBA0NAACBCyNADCBA2NAACDACHAEAACBAEAACBAEARCCRCCAEADCBAhG",
  "AAvDAnBCBAjIBRCHA2iVAACBAlKAAwiVCACBAlMAAqEAAuEAJC2HAoHqBDCDACIAoHGAsCBEqCBAgEBC+DBgBgCBQgCWA",
  "CMAQAA7BAAxBDAdAArBBXCBArDAA/CCA3DAA/DBACBANAACCEjIAegFA+BgCwBhBCJ1BCBAeANCC/CCCqCgDp6CqCgmOB",
  "AgmOFAgmOyW+Eg9rCAKQqkCA7kMAA5kMAAnkMACjkMAAlkMAA3jMAAniMAAm8kCAACG0C/7FCE/7FgK1ECGAzDCA97OB/",
  "CCJOPIKPKOPIOPIKPLHPIOPYOPIOPIOPICPACzEAARBApgOJGrFAARGAlkOECPACnGHAljOECPAC/GAANLC/HAC7HAARp",
  "JA51ODA9rQAArkQGA4BtBegBTACyZyB0Bw5B+CgDwBACBAt/UAAruHAAt+UCFCBA3hVAA5/UAA9hVAA7hVBACCACIC9jV",
  "AjDCIDCEACtqetBCTbCnENCD9BCKDCBAnglCAJCEACBAvyyCCDCDTCBAn0yCAA90yCAA10yCAAh0yCAAn0yCBAjxyCAAz",
  "yyCAApxyCAAg6BAPCBA/CAAl0yCAAvjlCADCBAt2yCAACDACFFCBAhkzCYACv4UAC7gByBgClmBuCwCoEmCwC8EUuCBcu",
  "CBMuCBCuCq3BkDgE9EqBgC65C+BgCgsV+BgCg1eiCkC"]

end ApiContract.Unicode
