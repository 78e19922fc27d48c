/-
This file holds the versions of the standard in which code points were assigned.
-/

namespace ApiContract.Unicode

/-- The versions, in their order. -/
def versions : List (Nat × Nat) := [
  (1, 1), (2, 0), (2, 1), (3, 0), (3, 1), (3, 2), (4, 0), (4, 1), (5, 0), (5, 1), (5, 2), (6, 0),
  (6, 1), (6, 2), (6, 3), (7, 0), (8, 0), (9, 0), (10, 0), (11, 0), (12, 0), (12, 1), (13, 0),
  (14, 0), (15, 0), (15, 1), (16, 0), (17, 0)]

/-- The ranges of one version, by the index of the version. -/
def ageTable : String := String.join [
  "A1PAADDAdAAHDAAFAAGARDACGAKHANIA4CAAEDABGAuBAAADAJAAEDAQGAlCAAIDAAFAHGAEHACGABAAADAMFADJABAAB",
  "JCAAACIAAAAAPEGABAABTABrBAAAJAGAAADABFAAAAADAAAAADAAAAADAAAAADARAABEAAFAEGADHAADALAAADAhCAAAD",
  "ALAAADAoBAAAJABDABFADDA0BAABFABAABFABAABFAAIAbAABDAHAABHABAAFIAPFADIAPJABKABLAHPBlBACGAAATAmB",
  "AAATAAAAADCBPAAMBQBAAHAMBAJAAAIAIAAABACHIaAEATAEALDGAAMAAPAEJAAHAAAAIGAEJAAAAAOAAXAAHAAAAALAZ",
  "AAEJASAACDACGAFHAALANAABFAnCAABDAEAAADAOAAADAdAABGAJAAEDAAGANDBdDACGAaDCCGAdHARJAwBDAAFO6BICC",
  "TAtBKCOKBbLCALBKSFeXAAbABXFAaAHXAAMAAPAKMAFPABQAAXAHRAJWAKXAATAORAAQAaMAAPAAKACAAAGA0BAABLARA",
  "AAKAALAEAAAKABLAYAABJAELAAPABKABIAAHABIAAPACABHACBACVABGABAADDACAAAAGAGACBACCAAAHIAAEBABEACUA",
  "AAKABSAATCAGAAAAAGBFAEBACVABGABBABBABBACAABEAEBACCADAJHDABAAHOAAAJAATKCABGAAAGAAABCABVABGABBA",
  "BEACJABCABCACAAPAAACGCJAAAMAAGHAQAFSBCABHACBACVABGABBABAGADACHAAAJCBACCAHAWABAEBABCAABJCKAAAG",
  "AFLKBABFADCABDADBABAABBADBADCADHAAAHACAEEADCABDACAJGAAOAHALAAHGFAPACAAATAHABCABWABJAAAPAEACAX",
  "AAJAGABCABDAHBABBJAAQBAbAAXCBAABJCJAHAUAHJAARAAPABAAATAHABCABWABJABEACBGAGABCABDAHBAFAbAAXAAA",
  "BBAABICJABBIAAYMASAAPABAAAWAHABCABWAAALAPAAALABSAAJAFAAAJBCABDAAALAARECRAAAAGRAAQABAABJCJAAFJ",
  "ACRAGJBAWABDBRDDXDBIDBADCGDDADEFDBADBHDGJPCCDM5BAEcAlBBABAABAUABAAAUAAABAUAAAAFUADAAAUAGAAAUA",
  "CABAABAAABUABAAAUAMAAAUACACEABAABFAAAYBJACBAABMgBnCBBgBBAADABJEaBADLAFBAADAABBUBACDAGBAADAABA",
  "CDBODBAJAADABHACJADKABLlBhBDAAJAEDAAJABDAAJAGDACJADDAFJAZDA/BJADKABJAlBABAMFAMCmBAABFABHAAAAA",
  "HACMA5CAAEKAjCAAEKAxCAAFKAGDAAHA+BDAAHAADBDDCGDBADBDDCmBDAAHAADBDDCeDAAHAADBDDCGDBADBDDCGDAAH",
  "AGDBWDAAHAeDAAHAADBDDCGDAAHAmBDAAHASDCBLABHAbDDZHG0CDAAQCFQCAKA1TDAIKAcDDwCDAHPHMFAAXAGFAAXJA",
  "XAWFJTFMMFBCFBBFM8CDAAGCJDGJGGODAAXAJDG3CDAATHpBDAAJFlCKKcGABPBLGELGEAGDpBGCEGLpBHABKEZHGJHAA",
  "KDBHAfGAbHCBHA+BKBcKCKKGJKGNKCOPABWANXAObCLbUrCIAAXBBaAsBIABXAAaAqBJACMALJAFMAzBLIDLA3BJDOJDy",
  "BJAIRABaFqBTCCTAHMIiBKADMAASABPAAUFrDGA3CHAGIAbJAOPADSAAXAARAALAAKABIA6EAAABADJA5CAAFJAVACFAC",
  "lBACFACHABAABAABAABeAC0BABOABNACFABSACCABIABuBAAADAWAAAFAFDAEFABGABHAAFAGHAEFAAJBDOAGAAAFCaAB",
  "EHAHLDKAAABAACACDABFADHACKAALAANACPAAQAASAAXAAbORAABDAGFAAHADIAAJP4BAABDAAGAAHAOFAAHABIAAJACK",
  "AvBAAADAAIADJAAKABQE6CAAIDALFAxHAANFAAAAADA4DAAADAAFAdDAzBFABGAKHALIAAKAKLAGPADRAASAkBAABDACa",
  "WKAVqEAATFAAGA1EAAJFAvCAAHDAHFATAABGABFAAHAADA1CAABDALFABHAJFAHGAKHAAJABKABGAPHAAIAJJACKADJAJ",
  "KAALASKAALAAKADLAXKAAPADAAALADAABLAbAAALAiBAAALAAAAALADAACLAAAAAKAGAABLAGAANFAeAACLAXAAALANAA",
  "ALAGHADIAAMAAJAAMABLAbFADJAPFA/HDA/PFANGAFHAGIAEJADIAoBJACPAEJAEKAZPCfPAAbAAWAhBPACTALPAAUAHP",
  "AASAYTADQAOTAAUAuBHAAXAuBHAAXAMIACJAAKACJADIAFJABKAqDHAGKABMFsBHBAMFAMC1BHABMHAHAALOALAWHJGHB",
  "GHBGHBGHBGHBGHBGHBGHBfJAXHADJABHASJAAKAJMAGPABRAESAETAAUACWAKXiBZDB4CDM1GDaLDADZA3BAACDACFAAD",
  "AAABzCAABFCFAABFA9CAAAFFnBAAAJAASAATB9CABPAAXDACLAEWAPHATJABaJAZAPFAcAABGBjBAALKAAGAOFAbAABGA",
  "AHAxBAAOFALAADGAuBAAAVA2DAADGAiDAABGAeAAAGA1tGDAJWA/BGAltUAAVHAHJAHKAAMAIQAUSAETAMWACXAskBDDR",
  "DABFAPDAAFALDAAFACDAAFAADJvBKArJJUfJABLARJAHMAbJAFPAAQAAMA3CKIWHADIAEJABIAqDJABLAAQABLABMALPA",
  "JLAAMACPAARAATABPAFQABTAFUABXAEUADWACaABbABXAAbAAXAAbAEXACaUAbACXABWAAPABMAALAEJArBHAAWDJKG3B",
  "IIkCJAARILJGbKABQABTAzCJLAJAcKDtCKBKKEBKAePB2BJJNJCJJCDJAbKADPAiCKYEKAWMKFLCFLCFLJGLBGLBvBPAD",
  "QABPABUADWEvCQAtBKCJKGj9KBMWKEwBKE//BBAtxGAABMA6BFACKCpDHmBGAMEAFADAYABEABAABBABBABrDAAPLAAXA",
  "PbAsLAAPXA/BAABbA1BAAGbAAXAfEALAAAFAAGABXAPFAJHGDAACJAGPABQAUAABFABGAJABSABDAECAAAFAAABmEACAA",
  "B9CAABFA9CADFACFACFACCADGABGAKCDAACACAALGBZGBSGBBGBOGCNGiB6DGFCGEsBGDIGAqCHABPABRBLJAAWDAPvBt",
  "BJiEcJDwBJPbPEeEAAPADEJCSAaEFqBPFdGBAGAjBHENHqBlBEABGAlBEAvCGCJGGjBREjBREnBPIzBPLAPAKXBOXBGXB",
  "BXBKXBOXBGXBBXDzBaM2JPJVPKHPYFXBpBXBIXlCFGCAGBrBGBBGDAGCAGAVKBIKA+BPIIPwBSQBBQFEQAZIABKDAIAZJ",
  "FAJAZbmB3BMEBQABMAPQCtBQADHBBHFHHBCHBaHABTCCHEIHAATHIHHfKAfPgBmBPELPJ1BKDcKCaKFHKARPHDPMGPwCo",
  "CK3ByBQNyBQHFQAnBTIJTGlBaDcaIBawGeKBpBWBCWCBWQCaACbIIbhBBbAAaACYAnBTIpBTWZXmBbWUWUJtCLEdLAFXJ",
  "APAhCKAAXKATCYMHJMG0BMBNMACTAAWImBPJoCMADQAAPABWAJMAAPAEQBTPLRPBqBPAARACY+BGQBAQBDQBOQBKQG6BP",
  "FJPGAQACPBHPCBPCVPBGPBBPBEPBATAIPCBPCCPCAQGAPFGPCGPDEPLJaBAaCAaBlBaBJaBAaCAaBDaBJaBBaIBad5CRA",
  "AWAARBARAATAAUABWenCPIJPmF1BPCRPATQiBkCPLJPGMRT3BMAAUAAXGJMGTacZQAATCOQEPQAGX5F7BTkDyCPMAPAGW",
  "CAWCHWBBWBdWBBWCLWJJWmCHUCtBUCKUbnCSIzBSABUAWSAATAESNPXA4BPHJY2CHb4ChBaOJaGIRBsBRBNRKcRDfRCVR",
  "BNRpCGSBBSBrBSDASBBSBISIJSGFTBBTBkBTBBTBFTHJTGrBbEJb2HYTHQYBoBYDbYAAa1CAWPxBUNAUAubIApBPAAQmD",
  "iDIALPBDIAAPLjGQsyCiDXNuhBKAAYAIUAcYK68DaFmSQ51G5Bam2B4RLHePBJPEBPAuCXBJXGdPCFPKlCPKJPBGPBUPF",
  "SPwN5BamG6CTFYbCYbsBkCMAFUEAUAuBMAIUHQMgCARAASABUAAWLBWAEbJs/FRAETAFUAHbAyXRAiPWpBAaAIWAVbhDy",
  "Db9vIDXBGXBBXBBLA8ISADXPAYdCUCAYODUIrMSkoCqDPFMPDIPHJPCHP86D5HaACbDzNaGWbPQbPtBXCWXJzDX8B1HEK",
  "mBECAJAzFEAKQABXVlCH6DTYMTTM2CGJRIAGTnE0CEBmCEBBECAECBECDEBLEBAEBDEAAGABEBgCEBDECHEBGEBbEBDEB",
  "EEBAEDGEBxKEABHChJEABICxBEArUQPEQBOQwiBeXGFY1GGRBQRCGRBBRBERF9BYhBAYwDsBUDNUCJUEBUgKeXR5BUFAU",
  "wOpBY2GqBaEAagGebBVbIBbgHGXBDXBBXBOXBkGPCPPpBqCRAAUEJREBRxYjCTsC8BUiGDMBaMBBMBAMCAMBJMBDMBAMB",
  "AMGAMEAMBAMBAMBCMBBMBAMCAMBAMBAMBAMBAMBBMBAMCDMBGMBDMBDMBAMBJMBQMFCMBEMBQM0BBMuIrBJEjDJMOLCNL",
  "AAPBOLBOLAVPKKKABPACWAeKAATAALAAKAKLAAKAALAAKABLAAKACLAAKACLAEKAHLAAKAGLAAKAJLABMAAUACWAILAAK",
  "AALABKABLAAKAJLADKABLAAKAJLARRAAW4BZLAAKABLNhBKAILAAREIKHBLOFS6EgBLALPACQAFLAAPAlCLAAPABQATLA",
  "LPAkBLAAPAELADPAEQALPAQLAGPAHQA+BLAAPAALAAPA1FLAAPADLABPAAQA9BLABPADMAGPAEQAXLARPAARAoBPAARA1",
  "CPAELAAMAPLAAMACLAAMAALAAMAALAAMAALAAMACLAAMAFLABMADLAAMAALABMADLAAMALLABPABQAKLAvBPAlCLAJPAA",
  "QABRABSAAUABWAAbDAYACXAMPDDPACRABSAATAAUABWDzDLACYADbAEYA0CPADTAAYGLUEAXPLPE3BPIJPGnBPIdPCBWA",
  "JaEBaOIbnBLSAAWACUAIQAFRAASAHRAHSAARABSALRAAUALRAASACTAORAMSAETAAUAAWADTABWAAXAATAAUADTAEQAMR",
  "AFSAKTABWAFUACWABUAJTAFUAAQABTAHUAAWAAXACUAWSAYTAzCUADbINTCDUAAWACYACUABXDCUADWABYAAaAAbDAbAA",
  "aAFUASWADXACYAGWADXACYAAaAAYACWACXAAaBAbEAbABYAGWACXABYAAaCAaAHXAAYAAaAAbEAbAGXABYHyEWB2BWAkB",
  "aAJWAAbjgBBBA22pBEAGWABXgB0hEKADXAAYAFbA9GLCh0FQALbCwpHSPtTZitC9QEgvBBBAq6EWF/iEYApmEbk8yBBB+",
  "//BBB+//BBB+//BBB+//BBB+//BBB+//BBB+//BBB+//BBB+//BBB+//BBBBAEe/CEgEvHGuw/BhggEB"]

end ApiContract.Unicode
