/-
This file holds the directions in which characters are written and the ways in which they join their
neighbours.
-/

namespace ApiContract.Unicode

/-- The directions other than left to right, by the index of the direction. -/
def directionTable : String := String.join [
  "AIJAAMAALAAMAANAALANJACLAAMAANABIACHAEIAAFAAGAAFABGAJEAAGAFIaFIaDIAFJAALAZJAAGAAIADHADIBBIAAJ",
  "ABIABHABEAAIBCIAAEBEIXAIfAIhOBIHNICNIFIIBQIAvDKEBIIAIFBIBAIuDAIsEGKgIAICBIAAHAABAsBKAABAAKAAB",
  "ABKAABABKAABAAKA3BBAFDABIAACABHAACAAGAACABIAKKAvBCAUKAJDAAHABDACCAAKAkDCAGKAADAAIAFKABCABKAAI",
  "ADKABCAJEAWCAAKAdCAaKA6CCAKKAOCAqBBAIKABBADIACBAAKAXBADKAABAIKAABACKAABAEKAqBBACKADBAvBCABDAE",
  "CAIKApBCAXKAADAfK3BAKBAKEHKEAKDGKKBKdAK6BAKEDKIAKUBKOBHHAHCAKCBK5BAKEBKEBKCCKDAKeBKDAKLBK5BAK",
  "EEKBBKEAKUBKNAHIFKBAK6BAKCAKBDKIAKHBKLBKeAK9BAKMAKlBFIAAHAAIFAKDAK3BAKBCKFCKBDKHBKLBKUGICAK6B",
  "AKPBKUBKcBK5BBKEDKIAKUBKdAKoCAKHCKBAK6CAKCGKEAHHHKiDAKCIKLGKpCBKbAKBAKBAKADIzBNKBEKBBKFKKBjBK",
  "JAKmDDKBFKBBKCBKZBKECKQDKNAKCBKGAKPAK/VCKwBJImDAI/TANaBI1DCKdBKeBKeBKgCBKBGKIAKCKKHAHBAKSJIGK",
  "IACKAAJAAK1DBKiBAK2DCKEBKJAKGCKEAIDBI4EhBIXBKCAK6BAKBGKBAKBAKCHKGJKCAKwBtBKCLKUDKwBAKBEKBAKFA",
  "KoBIKMBKgBDKCBKBCK4BAKBBKDAKBCK6BHKCBK4ECKBMKBGKEAKGAKDBKmG/BK9NAIBCILCINCINCINBIBKNACJBABAXI",
  "AANAALAAOAAQAASAAPAARAAGAEHAOIAAGAZIAANAFJAATAAUAAVAAWAFJAAEDFEABFACIBJEABFACIRvBHAgBKPBIBDIB",
  "BIKAIBCIFFIBAIBAIBAIEAHLBIEEIFDICPIpBCIEhEIAAFAAHAhJIlCZIBzEIWKIVnBIATEuChOIByKIgIzTICpEIlHFI",
  "ECKHGI/DAKgDfKA9CIiBZIB4CIM1GIaPIAANADIDYIJDKCAIFBIFCI5CBKABIDAI6CAIkGlBIJAItBBIxBPIcCIyBOIMD",
  "InFDIjDBIfAIguG/BIw0V2BImKCI/CDKAAIAJKABIeBKwCBKOhBImDAI5DAKDAKEAKZBKBDIAAKLBH6BDIsCBKaRKNAKm",
  "BHKZKKuBCKwBAKCDKCBKnBAKjCFKCBKCBKMAKIAKvBAKzBAKBCKCBKFBKBAKqBBKIAKzDBI5DAKCAKEAKv5TABAAKAJBA",
  "AFAlBBAyDCAPIAqLCARIA/BCABIA1BCAHIAfJAMCACIAPKAJIGPKAfIAAGAAIAAGBAIAAGAIIAAHABIABFACIBAIABHAA",
  "IEuECAAJBBIACHAEIAAFAAGAAFABGAJEAAGAFIaFIaKI6DBHACIABHBGIBIJAEIABJhIAI+BsCIDMIDAI8CAKiHAKAaE6",
  "DEKlkB+IBAAIAgHBACKAABABKAEBADKAnBBACKADBAAKAkFBABKAxCBAGIA/NBAjBCADKAHCAJDAFCAoBBAEKAAIAwHBA",
  "eDArBBABKASBAPCAIIAgBCAFKAvBBAVCAKKAeCARBADKA5DBBAK2BOKLTIKAKCBKKCKxBDKCBKHAK9BCKkBEKBHK+BAKM",
  "BK0BIKKDKCAK/CCKCAKBBKGAKCAK9EAKDHKVBK5BBKDAKlBGKDEKmCFKNAKBAKBAKOBK1CHKCCKBAKXAK0CFKBAKEBKBB",
  "KuHDKGBKBBKbBK1CHKCAKBBKfMI+BAKBAKCFKBAKlDCKCDKBEKjIIKBBKgIBKBAKEAKwEDKCBKEAKgBFKCBKoBFKCDKIA",
  "KJFKCCKuBMKBBKmGAKBCKBAKpGGKBFK0CVKCGKBBKBBK6DFKDAKBBKBGKBAKoCBKDAKBAK7KBKLBK0BEKFAKBAKXAK6DH",
  "IADHAQIuiFAKGOKomLLKDCKguCEK7BGK4gBAK/BDKvCAIBAK4lTBKBDJ86DvHIAJEACIDzNIGWIPQIPtBKCWKgRCKJHJA",
  "HKCGKeDK7BBIVhCIACKAAI6F2CIkcAI5BAI5BAI5BAI5BAIKxBEgQ2BKExBKIAKOAKWEKBOKwqBGKBQKCGKBBKBEKkDAK",
  "gFGK3LAK9BDKPAHsPDK+HBKzHAKCAKHBKFAKqIvGBAGKAsDBAGKAkZBAvCCA/BBAvCCAvFBAvHCABIANCA/HBArBIEjDI",
  "MOICOIBOIBkBIKKEAEIfAI6BFI9BAIyFFI6E4eIDQIDMID5GIGLIEAIPLIE3BIIJIGnBIIdICLIEBIOIInB3KIINICMID",
  "KID4BIBAIEPICLIEJIHyEIB7CIAJEAAIjgBBJ+//BBJ+//BBJ+//BBJ+//BBJ+//BBJ+//BBJ+//BBJ+//BBJ+//BBJ+/",
  "/BBJ+//BBJ+//BhIJAvHKAvwDJ+/7BBJ+//BBJ+//BBJ"]

/-- The ways of joining, by the index of the way. -/
def joiningTable : String := String.join [
  "tFADySvDDzIGDnIsBDBADBBDBBDBADoCKDBADDACBDBAACAABAACAABAECADBAMCBGCAABABCAUDOBCAADACBBCBAPCAR",
  "BAlBCAABABCAIBAACAABAACAABABCABBBABAGDCFDCBDBDDABBKCCCACPADAABAADACCAEBADCAABAICAABAACAABAACA",
  "ABABCAABAaDCABAKCACBAOCABBADCAABAACABBACCABBAFCmBKDZgBCAIDJADYDDBIDBCDBEDSABAECABBAACAABAJCAA",
  "BAACACBACDEACBDCBABAACABBFSBDACCECAABAACHIDAJCACBBABABCABBAFCAABAOCBXDBfD3BADBADEHDEADDGDKBDd",
  "AD6BADEDDIADUBDaADCBD5BADEBDEBDCCDDADeBDDADLBD5BADEEDBBDEADUBDWFDBAD6BADCADBDDIADHBDLBDeAD9BA",
  "DMADyBADDAD3BADBCDFCDBDDHBDLBDdAD6BADCADGADFBDUBDcBD5BBDEDDIADUBDdADoCADHCDBAD6CADCGDMHDiDADC",
  "IDLGDpCBDbADBADBAD3BNDBEDBBDFKDBjBDJADmDDDBFDBBDCBDZBDECDQDDNADCBDGADPAD/VCDydCDdBDeBDeBDgCBD",
  "BGDIADCKDJADpBACDCDBADQ4CCMBDAhBCAADAAC1DCDEBDJADGCD7GBDCAD6BADBGDBADBADCHDGJDCADwBtBDCLDUDDw",
  "BADBEDBADFADoBIDMBDgBDDCBDBCD4BADBBDDADBCD6BHDCBD4ECDBMDBGDEADGADDBDmG/BDrQADCBDaEDxBEDFFDgDg",
  "BD+/CCDtEADgDfDqRDDrDBD0udDDBJDgBBDwCBDwIADDADEADZBDFADTxBCAAAxCBDaRDNADmBHDZKDuBCDwBADCDDCBD",
  "nBADjCFDCBDCBDMADIADvBADzBADBCDCBDFBDBADqBBDIADuHADCADEADw5TADhXPDQPDvGAD5HCDhQADiHAD1EEDm0BC",
  "DBBDFDDoBCDEADgEECAABBABBBBCAAAEBADCAAAAECAABACCAABCABABDEDCAABwEACAABAACACBACCAABABCAABAACAB",
  "BAACAABXDBABCxKAAAgBCAABAACADDhCED9JBDVABABCBBCyBFDwBCCAABAQCBKDACCAABbDCABBALCADDqBACBBCACBB",
  "ACABBABCAABABCBACABBAACEABAACAAA1BAD2BODpBADCBDKCDxBDDCBDHAD9BCDkBEDBHD+BADMBD0BIDKDDCAD/CCDC",
  "ADBBDGADCAD9EADDHDVBD5BBDDADlBGDDEDmCFDNADBADBADOBD1CHDCCDBADXAD0CFDBADEBDBBDuHDDGBDBBDbBD1CH",
  "DCADBBDqDADBADCFDBADlDADBADCDDBEDjIIDBBDgIBDBADEADwEDDCBDEADgBJDoBFDCDDIADJFDCCDuBMDBBDmGADBC",
  "DBADpGGDBFDBADyCVDCGDBBDBBD6DFDDADBBDBGDBADoCBDDADBAD7KBDLBD0BEDFADBADXAD1mFQDGODomLLDDCDguCE",
  "D7BGD4gBAD/BDDxCAD4lTBDBDD8yEtBDCWDgRCDJPDCGDeDD0ECD79B2BDExBDIADOADWEDBODwqBGDBQDCGDBBDBEDkD",
  "ADgFGD3LAD9BDD8PDD+HBDzHADCADHBDFAD6OGDpBjCCAHD11lYADe/CDgEvHD"]

end ApiContract.Unicode
