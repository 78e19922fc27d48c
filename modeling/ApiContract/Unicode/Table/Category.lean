/-
This file holds the general categories of all characters, by the index of the category.
-/

namespace ApiContract.Unicode

/-- The ranges of one general category. -/
def categoryTable : String := String.join [
  "AfZAAWACRAATACRAANAAOAARAASAARAAMABRAJIABRACSABRAZAAANAARAAOAAUAALAAUAZBAANAASAAOAASAgBZAAWAA",
  "RADTAAVAARAAUAAVAAEAAPAASAAaAAVAAUAAVAASABKAAUAABABRAAUAAKAAEAAQACKAARAWAAASAGAAXBAASAHBAAAAA",
  "BAAAAABAAAAABAAAAABAAAAABAAAAABAAAAABAAAAABAAAAABAAAAABAAAAABAAAAABAAAAABAAAAABAAAAABAAAAABAA",
  "AAABAAAAABAAAAABAAAAABAAAAABAAAAABAAAAABAAAAABAAAAABAAAAABAAAAABAAAABBAAAAABAAAAABAAAAABAAAAA",
  "BAAAAABAAAAABAAAAABAAAABBAAAAABAAAAABAAAAABAAAAABAAAAABAAAAABAAAAABAAAAABAAAAABAAAAABAAAAABAA",
  "AAABAAAAABAAAAABAAAAABAAAAABAAAAABAAAAABAAAAABAAAAABAAAAABAAAAABAAAAABABAAABAAAAABAAAACBABAAA",
  "BAAAAABABAAABACAABBADAAABABAAABACAACBABAAABABAAABAAAAABAAAAABABAAABAAAABBAAAAABABAAABACAAABAA",
  "AAABABAABBAAEAAAACBADEAAAAACAABAAAAACAABAAAAACAABAAAAABAAAAABAAAAABAAAAABAAAAABAAAAABAAAAABAA",
  "AABBAAAAABAAAAABAAAAABAAAAABAAAAABAAAAABAAAAABAAAAABAAAABBAAAAACAABAAAAABACAAABAAAAABAAAAABAA",
  "AAABAAAAABAAAAABAAAAABAAAAABAAAAABAAAAABAAAAABAAAAABAAAAABAAAAABAAAAABAAAAABAAAAABAAAAABAAAAA",
  "BAAAAABAAAAABAAAAABAAAAABAAAAABAAAAABAAAAABAAAAABAAAAABAAAAABAAAAGBABAAABABAABBAAAAABADAAABAA",
  "AAABAAAAABAAAAABAAAAkCBABEAZBARDADUALDANUAEDAGUAADAAUAADAQUAvDFAAAAABAAAAABAADAAUAAAAABCADACB",
  "AARAAAEBUAAAAARACABAABBAAABAQABIAAiBBAAAABBACAACBAAAAABAAAAABAAAAABAAAAABAAAAABAAAAABAAAAABAA",
  "AAABAAAAABAAAAABAAAAABAAAAEBAAAAABAASAAAAABABAABBAyBAAvBBAAAAABAAAAABAAAAABAAAAABAAAAABAAAAAB",
  "AAAAABAAAAABAAAAABAAAAABAAAAABAAAAABAAAAABAAAAABAAAAABAAAAABAAAAABAAVAEFABHAAAAABAAAAABAAAAAB",
  "AAAAABAAAAABAAAAABAAAAABAAAAABAAAAABAAAAABAAAAABAAAAABAAAAABAAAAABAAAAABAAAAABAAAAABAAAAABAAA",
  "AABAAAAABAAAAABAAAAABAAAAABAAAAABAAAAABAAAAABAAAAABABAAABAAAAABAAAAABAAAAABAAAAABAAAAABAAAABB",
  "AAAAABAAAAABAAAAABAAAAABAAAAABAAAAABAAAAABAAAAABAAAAABAAAAABAAAAABAAAAABAAAAABAAAAABAAAAABAAA",
  "AABAAAAABAAAAABAAAAABAAAAABAAAAABAAAAABAAAAABAAAAABAAAAABAAAAABAAAAABAAAAABAAAAABAAAAABAAAAAB",
  "AAAAABAAAAABAAAAABAAAAABAAAAABAAAAABAAAAABAAAAABAAAAABAAAAABAAAAABAAAAABAAAAABAAAAABAAAAABAAA",
  "AABAAAAABBlBACADAFRAoBBAARAAMCBVAATBsBFAAMAAFAARABFAARABFAARAAFIaEEDEABRLFaACSABRAATABRABVAKF",
  "AARAAaACRAfEAADAJEAUFAJIADRABEAAFAiDEAARAAEAGFAAaAAVAFFABDABFAAVADFABEAJIACEABVAAEANRBAaAAEAA",
  "FAdEAaFC4CEAKFAAEOJIAgBEAIFABDAAVACRAADCAFABTAVEADFAADAIFAADACFAADAEFCORBYEACFCARBKEFXEAAUAGE",
  "ABaFIFAoBEAADAXFAAaAfFAAGA1BEAAFAAGAAFAAEACGAHFADGAAFABGAAEAGFAJEABFABRAJIAARAADAOEAAFABGBHEC",
  "BECVEBGEBAEDDECAFAAEACGADFCBGCBGAAFAAEIAGEBEBCEABFCJIABEABTAFKAAVAATAAEAARAAFCBFAAGBFEEBECVEB",
  "GEBBEBBEBBECAFBCGABFEBFCCFDAFHDEBAEHJIABFACEAAFAARKBFAAGBIEBCEBVEBGEBBEBEECAFAAEACGAEFBBFAAGB",
  "BGAAFCAEPBEABFCJIAARAATHAEAFFBAFABGBHECBECVEBGEBBEBEECAFAAEAAGAAFAAGADFCBGCBGAAFHBFAAGEBEBCEA",
  "BFCJIAAVAAEAFKKAFAAEBFEDCEBDEDBEBAEBBEDBEDCEDLEEBGAAFABGDCGBCGAAFCAEGAGOJIACKAFVAATAAVFAFACGA",
  "AFAHEBCEBWEBPECAFAAEACFADGBCFBDFHBFBCEBBECBEABFCJIHARAGKAAVAAEAAFABGAARAHEBCEBWEBJEBEECAFAAEA",
  "AGAAFAEGBAFABGBBGABFHBGFCEBBEABFCJIBBEAAGMBFABGAIEBCEBoBEABFAAEACGADFBCGBCGAAFAAEAAVECEAAGAGK",
  "ACEABFCJIAIKAAVAFEBAFABGBREDXEBIEBAECGEDAFECGACFBAFBHGGJICBGAARMvBEAAFABEAGFEATAFEAADAHFAARAJ",
  "IABRlBBEBAEBEEBXEBAEBJEAAFABEAIFAAECEEBADBGFBJICDEgBAEACVAORAAVAARACVABFAFVAJIAJKAAVAAFAAVAAF",
  "AAVAAFAANAAOAANAAOABGAHEBjBEENFAAGAEFAARABFAEEAKFBjBFBHVAAFAFVBBVAERADVABRlBqBEABGADFAAGAFFAA",
  "GABFABGABFAAEAJIAFRAFEABGABFADEACFAAEACGABEAGGACEADFAMEAAFABGABFAFGAAFAAEAAGAJIACGAAFABVAlBAB",
  "AAFAACqBBAARAADACBAoKEBDECGEBAEBDECoBEBDECgBEBDECGEBAEBDECOEB4BEBDECiCECCFAIRATKDPEAJVG1CACFB",
  "CAMArTEAAVAARAQEAAWAZEAANAAODqCEACRACJAHEHREACFAAGJSEABFAAGABRJREABFMMEBCEBBFMzBEABFAAGAGFAHG",
  "AAFABGAKFACRAADACRAATAAEAAFCJIGJKGFRAAMADRACFAAaAAFAJIGiBEAADA0BEHEEABFAhBEAAFAAEFlCEKeEBCFAD",
  "GABFACGEBGAAFAFGACFEAVDBRAJIAdECEELrBEEZEGJIAAKDhBVAWEABFABGAAFCBRA0BEAAGAAFAAGAGFBAFAAGAAFAB",
  "GAHFAFGAJFCAFAJIGJIGGRAADAFRCNFAAHAeFCLFUDFAAGAuBEAAFAAGAEFAAGAAFAEGAAFABGAHEBBRAJIAGRAJVAIFA",
  "IVACRABFAAGAdEAAGADFABGABFAAGACFABEAJIArBEAAFAAGABFACGAAFAAGACFABGIDRAjBEAHGAHFABGABFDERAJIDC",
  "EAJIAdEAFDABRAIBAAAAABFqBACCAAHRICFAARAMFAAGAGFADEAAFAFEAAFABEAAGABFAAEFrBBA+BDAMBAADAhBBAkBD",
  "A/BFAAAAABAAAAABAAAAABAAAAABAAAAABAAAAABAAAAABAAAAABAAAAABAAAAABAAAAABAAAAABAAAAABAAAAABAAAAA",
  "BAAAAABAAAAABAAAAABAAAAABAAAAABAAAAABAAAAABAAAAABAAAAABAAAAABAAAAABAAAAABAAAAABAAAAABAAAAABAA",
  "AAABAAAAABAAAAABAAAAABAAAAABAAAAABAAAAABAAAAABAAAAABAAAAABAAAAABAAAAABAAAAABAAAAABAAAAABAAAAA",
  "BAAAAABAAAAABAAAAABAAAAABAAAAABAAAAABAAAAABAAAAABAAAAABAAAAABAAAAABAAAAABAAAAABAAAAABAAAAABAA",
  "AAABAAAAABAAAAABAAAAABAAAAABAAAAABAAAAABAAAAABAAAAABAAAAABAAAAABAAAAABAAAAABAAAAIBAAAAABAAAAA",
  "BAAAAABAAAAABAAAAABAAAAABAAAAABAAAAABAAAAABAAAAABAAAAABAAAAABAAAAABAAAAABAAAAABAAAAABAAAAABAA",
  "AAABAAAAABAAAAABAAAAABAAAAABAAAAABAAAAABAAAAABAAAAABAAAAABAAAAABAAAAABAAAAABAAAAABAAAAABAAAAA",
  "BAAAAABAAAAABAAAAABAAAAABAAAAABAAAAABAAAAABAAAAABAAAAABAAAAABAAAAABAAAAABAAAAABAAAAABAAAAABAA",
  "AAIBAHAAFBCFACHBAHAAHBAHAAFBCFACHBBAABAABAABAAAHBAHAANBCHBAHCAHBAHCAHBAHCAEBBBBADAAACAAUAABAC",
  "UACBBBBADAAACACUADBCBBADABCUAHBAEAACUCCBBBBADAAACABUBKWAEaAFMABRAAPAAQAANABPAAQAANAAPAHRAAXAA",
  "YAEaAAWAIRAAPAAQADRABLACRAASAANAAOAKRAASAARAALAJRAAWAEaBJaAAKAADCFKACSAANAAOAADAJKACSAANAAOBM",
  "DDhBTOMFADHAAFACHALFPBVAAAADVAAAABVAABACAABBACAAABAAVAAAABVAASAEAAFVAAAAAVAAAAAVAAAAAVADAAAVA",
  "ABADAAABADEAABABVABBABAAESAAAADBAAVAASABVAABAAVAPKAiBJAAAAABADJAAKABVEESAEVABSADVAASABVAASABV",
  "AASAGVAASAeVABSABVAASAAVAASAeVArISAHVAANAAOAANAAOATVABSAGVAANAAOAwCVAASAdVAYSAnBVAFSAnCVWKVV7",
  "BKAtCVAVKA2FVAASAIVAASA1BVAHSAuDVAASA3HVAANAAOAANAAOAANAAOAANAAOAANAAOAANAAOAANAAOAdKArBVAESA",
  "ANAAOAeSAANAAOAANAAOAANAAOAANAAOAANAAOAPSA/HVAiESAANAAOAANAAOAANAAOAANAAOAANAAOAANAAOAANAAOAA",
  "NAAOAANAAOAANAAOAANAAOA+BSAANAAOAANAAOAfSAANAAOAhISAvBVAUSABVAFSAmBVCpEVAvBAAvBBAAAAABACAABBA",
  "AAAABAAAAABAAAAABADAAABAAAABBAAAAFBABDACAAABAAAAABAAAAABAAAAABAAAAABAAAAABAAAAABAAAAABAAAAABA",
  "AAAABAAAAABAAAAABAAAAABAAAAABAAAAABAAAAABAAAAABAAAAABAAAAABAAAAABAAAAABAAAAABAAAAABAAAAABAAAA",
  "ABAAAAABAAAAABAAAAABAAAAABAAAAABAAAAABAAAAABAAAAABAAAAABAAAAABAAAAABAAAAABAAAAABAAAAABAAAAABA",
  "AAAABAAAAABAAAAABAAAAABAAAAABAAAAABAAAAABAAAAABAAAAABAAAABBAFVAAAAABAAAAABACFAAAAABFDRAAKABRA",
  "lBBBABFABC3BEHADAAROAFAWEJGEBGEBGEBGEBGEBGEBGEBGEBfFABRAAPAAQAAPAAQACRAAPAAQAARAAPAAQAIRAAMAB",
  "RAAMAARAAPAAQABRAAPAAQAANAAOAANAAOAANAAOAANAAOAERAADAJRABMADRAAMAARAANAMRABVACRAANAAOAANAAOAA",
  "NAAOAANAAOAAMiBZVB4CVM1GVaPVAAWACRAAVAADAAEAAJAANAAOAANAAOAANAAOAANAAOAANAAOABVAANAAOAANAAOAA",
  "NAAOAANAAOAAMAANABOAAVAIJADFABGAAMAEDABVACJAADAAEAARABVB1CECBFABUABDAAEAAMA5CEAARACDAAEFqBEB9",
  "CEBBVADKAJVAfEAlBVJAVAPEAeVBJKAdVAHKAAVAOKAfVAJKAmBVAOKA/JVA/tGEA/BVA0wUEAADA2jBED2BVJnBEAFDA",
  "BRArIEAADACRAPEAJIABEUAAAABAAAAABAAAAABAAAAABAAAAABAAAAABAAAAABAAAAABAAAAABAAAAABAAAAABAAAAAB",
  "AAAAABAAAAABAAAAABAAAAABAAAAABAAAAABAAAAABAAAAABAAAAABAAAAABAAAAABAAEAAFACHAARAJFAARAADAAAAAB",
  "AAAAABAAAAABAAAAABAAAAABAAAAABAAAAABAAAAABAAAAABAAAAABAAAAABAAAAABAAAAABAAAAABABDABFAlCEAJJAB",
  "FAFRIWUAIDABUAAAAABAAAAABAAAAABAAAAABAAAAABAAAAABAAAACBAAAAABAAAAABAAAAABAAAAABAAAAABAAAAABAA",
  "AAABAAAAABAAAAABAAAAABAAAAABAAAAABAAAAABAAAAABAAAAABAAAAABAAAAABAAAAABAAAAABAAAAABAAAAABAAAAA",
  "BAAAAABAAAAABAAAAABAAAAABAAAAABAAAAABAAAAABAAAAABAAAAABAADAHBAAAAABAAAAABABAAABAAAAABAAAAABAA",
  "AAABAAAAABAADABUAAAAABAAAAABAAEAAAAABAAAACBAAAAABAAAAABAAAAABAAAAABAAAAABAAAAABAAAAABAAAAABAA",
  "AAABAAAAABAEAAABAEAAABAAAAABAAAAABAAAAABAAAAABAAAAABAAAAABAAAAABADAAABAAAAABABAAABAAAAABAAAAA",
  "BAAAAABAAAAABAAAAABAAAAABAAAAABAAAUDDAAAAABAAEABDAABAGEAAFACEAAFADEAAFAWEABGABFAAGADVAAFDFKAB",
  "VAATAAVGzBEADRIBGAxBEAPGABFIBRAJIGRFAFEACRAAEAARABEAAFAJIAbEAHFABRAWEAKFABGLARAcEDCFAAGAuBEAA",
  "FABGADFABGABFACGAMRBADAJIEBRAEEAAFAADAIEAJIAEEBoBEAFFABGABFABGABFJCEAAFAHEAAFAAGCJICDRAPEAADA",
  "FEACVAAEAAGAAFAAGAxBEAAFAAEACFABEABFAEEABFAAEAAFAAEYBEAADABRAKEAAGABFABGABRAAEABDAAGAAFKFECFE",
  "CFEJGEBGEBqBBAAUADDAIBAADABUEvCBAiBEABGAAFABGAAFABGAARAAGAAFCJIGj9KEMWEEwBEE//BbA/nGcAtLECpDE",
  "mBGBMEBFAEAAFAJEAASAMEBEEBAEBBEBBEBrDEAQUAPVAqLEAAOAANAPVA/BEABVA1BEAHVgBLEAATACVAPFAGRAANAAO",
  "AARGPFAARABMABLAANAAOAANAAOAANAAOAANAAOAANAAOAANAAOAANAAOAANAAOABRAANAAOADRACLACRBDRAAMAANAAO",
  "AANAAOAANAAOACRAASAAMACSBARAATABREEEBmEECAaBCRAATACRAANAAOAARAASAARAAMABRAJIABRACSABRAZAAANAA",
  "RAAOAAUAALAAUAZBAANAASAAOAASAANAAOAARAANAAOABRAJEAADAsBEABDAeEDFECFECFECCEDBTAASAAUAAVABTBAVA",
  "DSABVKCaABVCLEBZEBSEBBEBOECNEiB6DEFCREsBKDIVA0BJADKAQVABKACVBMVDAVvBsBVAAFiEcEDwBEPAFAaKEfEAD",
  "KJTEAAJAHEAAJFlBEAEFFdEBARAjBEEHEAARAEJqBnBAAnBBAtCECJIGjBAEjBBEnBEIzBELARAKABOABGABBABKBBOBB",
  "GBBBBDzBEM2JEJVEKHEYFDBpBDBIDlCFECAEBrBEBBEDAECWEBARAHKAWEABVAGKAeEIIKwBSEBBEFEKAVEAFKDARAZEF",
  "ARAZEmB3BEEBKABEAPKCtBKAAEACFBBFFDFADEBCEBcECCFEAFAIKHIRHcEABKAARAcEACKgBHEAAVAbEABFEEKAGRJ1B",
  "EDGRAVECHKASEFHKAREHDRMGKwCoCE3ByBANyBBHFKAjBEADFIJIGJIADEAADAAEAVADEFAAMAADAVBIBSwGeKBpBEBBF",
  "AAMCBEQCEAADABEIARAHVhBFFAcEAJKAAEIVEAKFADKAERWREADFADRmBUEAGKUWEJAGAAFAAGA0BEAOFAGRETKAJIAAF",
  "ABEABFAAEJCFAAGAsBEACGADFABGABFABRAAaADRAAFKAaCYEHJIGCFAjBEAEFAAGAHFBJIADRAAEABGAAEIiBEAAFABR",
  "AAEJBFAAGAvBEACGAIFABGADEADRADFAARAAGAAFAJIAAEAARAAEACRBTKLREBYEACGACFABGAAFAAGABFAFRAAFABEAA",
  "F+BGEBAEBDEBOEBJEAARGuBEAAFACGAHFFJIGBFABGBHECBECVEBGEBBEBEEBBFAAEABGAAFADGCBGCCGCAEGAGFEEABG",
  "CGFDEFLJEBAECAEBlBEBAEACGAFFBAGCAGBDGBBGAAFAAGAAFAAEAAFAAEABRBBRIBFd0BEACGAHFABGACFAAGAAFADEA",
  "ERAJIABRBARAAFACEevBEACGAFFAAGAAFADGABFAAGABFABEAARAAEIJImFuBEACGADFCDGABFAAGABFAWRADEABFiBvB",
  "EACGAHFABGAAFAAGABFACRAAELJIGMRTqBEAAFAAGAAFABGAFFAAGAAFAAEAARGJIGTIcaECAFAAGAAFABGADFAAGAEFE",
  "JIABKACRAAVAGE5FrBEACGAIFAAGABFAARkDfAAfBAJIAIKMHECAECHEBBEBXEAFGBBGCBFAAGAAFAAEAAGAAEAAGAAFA",
  "CRJJImCHECmBEACGADFCBFADGAAFAAEAARAAEAAGbAEAJFAnBEAFFAAGAAEADFAHRAAFIAEAFFABGACFAtBEAMFAAGABF",
  "ACRAAEAERNoCEHJR2CAFAAGACFAAGAAFAAG4CgBEAAROJIGIEBkBEAAGAGFBFFAAGAAFAAEAERKJIASKDBRAdECVFBAGA",
  "GFAAGABFAAGABFpCGEBBEBlBEAFFDAFBBFBGFAAEAAFIJIGFEBBEBfEAEGBBFBBGAAFAAGAAFAAEHJIGoBEAADABEEJI2",
  "HSEABFABGABRHBFAAEAAGAMEBhBEABGAEFDBGAAFAAGAAFAMRAJIAAF1CAEPUKAHVADTAQVNARA5cEmDuDJBERLjGEsyC",
  "gDEABRNvhBEAPaAAFAFEAOFK68DEFmSE51GdEALFACGACFAJIm2B4REHeEBJIEBRAuCEBJIGdECEFAARKvBEAGFAERADV",
  "ADDAARAAVKJIBGKBUEFSEwNCDAnBEABDACRAJImGfAAfBAWKADRFYACYBsBqCEEAFAAEA2BGHDFAMDgCBDAARAADAAFLB",
  "GABDACJJ1mHEpBfEhDyDE9vIDDBGDBBDBiJEPAEdCECAEODEIrMEkoCqDEFMEDIEHJECAVABFAARADa86DvHVAJIACVDz",
  "NVGWVPPVAASPtBFCWFJzDV8B1HVKmBVC7BVABGACFACVAFGAHaAHFABVAGFAdVADFA8BVVhCVACFAAV6DTKMTKM2CVJYK",
  "nEZAAZBAZAAGBBRBAZAAZBAAABBACAACBACDABHAADBBABBGBBKBAZAAZBABABDACHABGABZBABABDABEABAADGABZBAZ",
  "AAZBAZAAZBAZAAZBAZAAZBAZAAZBAZAAbBCYAAASAYBAASAFBAYAAASAYBAASAFBAYAAASAYBAASAFBAYAAASAYBAASAF",
  "BAYAAASAYBAASAFBAAAAABCxBIA/PVA2BFADVAxBFAHVAAFANVAAFABVAERPEFBOFwiBJBAAEATBGFB1GGFBQFCGFBBFB",
  "EFF9BDhBAFwDsBEDGFAGDCJIEAEAAVgKdEAAFRrBEADFAJIFATwOaEAADADFAJI2GdEABFAAEAJIEARgGeEBCEAAFABEA",
  "AFAGEABFAEEAAFIAEAADgHGEBDEBBEBOEBkGECIKAGFpBhBAAhBBAGFAADEJIEBRxY6BKAAVACKAATADKsCsBKAAVAOKi",
  "GDEBaEBBEBAECAEBJEBDEBAEBAEGAEEAEBAEBAEBCEBBEBAECAEBAEBAEBAEBAEBBEBAECDEBGEBDEBDEBAEBJEBQEFCE",
  "BEEBQE0BBSuIrBVEjDVMOVCOVBOVBkBVKMKAgFV4BcVNrBVEIVHBVOFV6E6HVAEUA4WVDQVDMVD5GVGLVEAVPLVE3BVIJ",
  "VGnBVIdVCLVEBVOISnB3KVINVCMVDKVD4BVBAVEPVCLVEJVHyEVB7CVAJIAAVlgB/2pBEgB9oEECt0FECwpHEPtTEitC9",
  "QEivBq6EEFppIEn8yVAae/CagEvHFww/B9//BcC9//Bc"]

end ApiContract.Unicode
