/-
This file holds what becomes of the characters of an international host name: they stay, vanish, or
give way to others. Other characters may not stand in such a name.
-/

namespace ApiContract.Unicode

/-- The characters that stay. -/
def validTable : String := String.join [
  "AgCakBhBGBABBBABBEBDADAXAHgBBABABABABABABABABABABABABABABABABABABABABABABABABADABBBABABADABAB",
  "ABACABABABABABABABABABABABABABABABABABABABABABABACABABABACABACADBEACADCCACABABACABBBACADABACC",
  "BGKABABABABABABABBBABABABABABABABABBEADABABABABABABABABABABABABABABABABABABABABABABABABABABAB",
  "ABABGCACBBAEABABABABgDJeGBF6CCADIBfBABABABADCSAbiBIABABABABABABABABABABABABADACABACBzBvBBABAB",
  "ABABABABABABABABABABABABABABIBABABABABABABABABABABABABABABABABABABABABABABABABABABACABABABABA",
  "BABBBABABABABABABABABABABABABABABABABABABABABABABABABABABABABABABABABABABABABABABABABABABABAB",
  "ABABABApBtBBCCCB2BIaEFRVB3CEjDBvBC6BCkDO6BCwBCOBbCABKFfHqCB0DIjBBHCBCVBGBADDCICBCDIAIDCYCCBFE",
  "BCVBGBACACBCABEEBCCDAKAJQKCBIBCBVBGBBBECJBCBCCAPDCLHGBCBHCBCVBGBBBECICBCCHCHECRKBBFDCBDDBBABB",
  "DBDCDLEEDCBDCAGAOUFMBCBWBPCIBCBDHBBCBBCDCJHVBCBWBJBECIBCBDHBFCBDCJBCMMBCByBBCBFEPCZBCBRDXBIBA",
  "CGDAEFBABHGJCCMxBBGEclBBBABEBXBABLBJCEBABGBJEBgBLB1BBDBDBDBDBDBLBCEBBAFGBQBDBDBDBDBDBLBCBOBMl",
  "B/EwBrBBhDCnHBDCGBABDCoBBDCgBBDCGBABDCOB4BBDCiCCfDZG1CK/TBbD4CHVJXJTMMBCBBMzBCnBCJGJGKFJG4CHq",
  "BFlCKeBLELEADpBCELrBEZGKD9BCgCBcCKGJGNCtBCLUsCBlFI7BDODyBKA1BHIqBFrBDALASAcMBhBlB/BBABABABABA",
  "BABABABABABABABABABABABABABABABABABABABABABABABABABABABABABABABABABABABABABABABABABABABABABAB",
  "ABABABABABABABABABABABABABABABABABABABABABABABECBBABABABABABABABABABABABABABABABABABABABABABA",
  "BABABABABABABABABABABABABABABABABABABABABABABABABABABIIFKHIHIFKHIHIABABABABABABAzBBEAPAJCDBIC",
  "BDOAVBCABEBLDAICCACDBABHDMBGhCHBYOgBTADALACBFBDABABABAEALAGDFFwBCBEBBE7ECAC3HC+HWKgFgpBBmDDkD",
  "B2ECpEwBvBBADBBABABAEABBBFFABABABABABABABABABABABABABABABABABABABABABABABABABABABABABABABABAB",
  "ABABABABABABABABABABABABABABABABHBABDBAFsBBAFAC3BIAOXJGBGBGBGBGBGBGBGB9DiBZBDByCuIAByBBADEB1C",
  "CBCBB+CGqBgDBOlCKPoCHvBAgMskcD2BJ7KVABABABABABABABABABABABABABABABABABABABABABABSBABABABABABA",
  "BABABABABABABABAC5CIhBBABABABABABABCBABABABABABABABABABABABABABABABABABABABABABABABABABABABAB",
  "ABABABHBABACABABABABDBABBBABCBABABABABABABABABABAFAFABABABABABABABAEABACABABABABABABABAaBCyBD",
  "JG3BIlCILGzDLdDtCBKEgBB2BJNCJCmDYbKFCFCFJGBGBrBEIBB0CtBCJGj9KMWEwBywIBBABBKABABBCC0HAzEgBrLRg",
  "CB2BHtBCgBPVBsBAsMLBZBSBBBOCNiB6DFCEsBD3CBMDAvBtBiEcDwBPbEjBJdFqBFdBkBENyC1DCJuBjBEnBIzBLAnBK",
  "BOBGBBDzBM2JJVKHYA/DFCABrBBBDACWBnCIIwBSBBFgBDaFamB3BETCxBBBFHBCBcCCEJHIH/BgBmBELJ1BDcCaFZHDM",
  "GwCoC3DyBHtBIJGPZcIBwGeBpBBCCBQFIIhBtBIpBWZmBbUWJtCEjBJ9BBENYHJG0BBRImBJ/CBTLRBuB+BGBABDBOBKG",
  "6BFJGDBHCBCVBGBBBEBJCBCCCAGAFGCGDELJBACABlBBJBACABDBJBBIBd7CBEenCIJmF1BClBiBkCLJGMT5BGJGTcaCO",
  "EW5F7BkEyBMHCACHBBBdBBCLJJmCHCtBCKbnCIyCNoCHJ2CH4ChBOJGIBsBBNKcDfCVBNpCGBBBrBDABBBIIJGFBBBkBB",
  "BBFHJGrBEJ2HYHQBoBDc1CAPxBN6cmDuDBELjGsyCiDNvhBQVK68DFmS51G5Bm2B4RHeBJEwCBJGdCFKlCKJBGBUFSwN5",
  "BmH6BgBYsBqCE4BHQgCELGJ1mHpBfhDyD9vIDBGBBBiJPAdCCAODIrMkoCqDFMDIHJCDg7D1GkBCDzNGWPQPtBCWJzD8B",
  "1HKmBC0BHNI/BGpBVlC6DTMTM2CJYnkBrUPEBOwiBeGF1GGBQCGBBBEkDAwDsBDNCJEBgKeR5BFAwOpB2GqBEAgGeBVIB",
  "gHGBDBBBOBkGCPrCpBEJEBxYjCsC8ByNBuIrBEjDMOCOBOBkBVEfAgBZDiBBc4BZgDF6E4eDQDMD5GGLEAPLE3BIJGnBI",
  "dCLEBOInB3KINCMDKD4BBAEPCLEJHyEB7CKAlgB/2pBgB9oECt0FCwpHPtTitEq6EFppI"]

/-- The characters that vanish. -/
def ignoredTable : String := "tFAhVAvwDBzyBB1CE7/BA0CEFF0nEA7kzBPvHAgFA/nvBDvmFHl8rYvH"

/-- The characters that give way to others: the distance, the number of further characters in the
run times three plus the kind of the run, the length of the result, and the result. -/
def mappedTable : String := String.join [
  "hCsCBhDlCABgBHACgBoYBABhDEACgBkYCEByBAACgBhYAAB8dCACgBnZAABxBAABvDBADxBkiI0BAADxBkiIyBAADzBki",
  "I0BBjCBgHBTB4HhBnCBhIBACpDnYBDCpDqDAFB1JCIB6JBDCsD3FALBiKBAC8VuDAkCBrKBAB/HAIB6LBABzDBABzSAFB",
  "jMBAB0SAABoMBEB2SAABsMCAB9OAAB5SAAB7SAAByMBABgTAABjTBABpTAABoTAAB5MDABvTAAByTBAB1TAIBhNBABgUA",
  "ABoNBABjUCABtNBABoUAABwNBEBqUAFB0NBAByUAAB5NDAB9NHGCkD+LAGCsDqDAGCuDqDAXBuOCaB/OCGCkD6DAAB1PB",
  "AB1MAAB/NA7BB5PBAB+MBaBjRHABljLAAB8RBAB6MAABmjLCABiSBABgMAABpUAABsUAOBnShDABoDAABmTAABqDAAByD",
  "AAB5TAAB7TAABhUAAB3DAAB5DfACgBmYAACgBnYAACgBqYAACgBoZAACgBjYAACgBrYCABjTAABsDAABzDAAB4DAAB1U7",
  "CEBgYBABzYAACoYhYAAB5dqBFBxbBAB5VBAB3bDACgB5dDAB7BAABzfEACgBhYAADgBoYhYAABsdAAB3FAHBtdBABseBE",
  "BteBxBBxdBZBjejBAB3eAABydAAB4dAABleAABteAABreAABmeAABgeBjBB5eBAB6dAABheAABjeBAB4dAAB1dBAB4fBA",
  "BjeAAB7fCHB7bAuBBwiBA+CBwhBwByBBhjBJwCBrkBBABvmBAUBimBCvEBxmBCwDBhrBwBAClrBisBtHACnxB0zBAACoy",
  "B0zBAACn2B0zBAACqyB0zB/WAC1oC8pCAAC2oC8pCAAC3oC8pCAAC8oC8pCAAChpC8pCAACipC8pCAACrpC8pCAACvpC8",
  "pC8DAChtC8tCAACitC8tCBACvtC8tCzCACyxC8xCCAC4xC8xCiBAC2wC8xCAAC3wC8xCAAC8wC8xCCACrxC8xC9HACh5C",
  "85CAACi5C85C1WACtyDyxD/DACt2Dy1DoBACr1D50DAACr1Dh1DuBABr4D2BACi6D39DJACs6D39DEACx6D39DEAC26D3",
  "9DEAC76D39DMACg6D19DJACx7Dy7DBACx7D07DAACy9Dg8DAADy9Dx7Dg8DAACz9Dg8DAADz9Dx7Dg8DHACx7Dg8DRACy",
  "8D39DJAC88D39DEACh9D39DEACm9D39DEACr9D39DMACw8D19DmHwDBgoLBABnpLFABtpLuBAB8mE7XQBw/EikCAByhBA",
  "AB0hBAAB+hBAEBhiBAABiiBAABqiBAABjjBAABrypBAABqkHG/DBwmECHB9nEsDABhDAABmHAFBiDAABlDAAB9OAWBnDB",
  "ABvDAABjRAABwDAAByDAEB0DAAB3DAABhDAEBwSAABioHAABiDAEBkDAAB5SAEB7SAABnDBABrDAABtDAABrKAABvDAAB",
  "0SAEB2oHAABwDAEB0DAAB9oHAABvTAAB2DAABlpHAHBydAEBmeAABpDAAByDAEB1DAEBydAABheAEBmeNAB9hBiBABySA",
  "ABjDAAB1SAABwHAAB8SAABmDAAB/SAABhTAABlTAHBoTAAB7rHAAB9UAABtTAABlsHAAB/UAABxTAABwTAKByTAAB4TAE",
  "BiUAABrNAEBpUAAB8oHAEBrUAAB6DAHBwUAAB4dgCgHBhwHFAChD+VAABhzHCAB/GBvEBh1HJWBg4HIQBw4HKWBg5HIWB",
  "w5HIQBg6HLLBx6HIWBg7HBABsdBABtdBABudBABvdBABseBABteBABueCACg4H5dAACh4H5dAACi4H5dAACj4H5dAACk4",
  "H5dAACl4H5dAACm4H5dAACn4H5dAACg4H5dAACh4H5dAACi4H5dAACj4H5dAACk4H5dAACl4H5dAACm4H5dAACn4H5dAA",
  "Cg5H5dAACh5H5dAACi5H5dAACj5H5dAACk5H5dAACl5H5dAACm5H5dAACn5H5dAACg5H5dAACh5H5dAACi5H5dAACj5H5",
  "dAACk5H5dAACl5H5dAACm5H5dAACn5H5dAACg7H5dAACh7H5dAACi7H5dAACj7H5dAACk7H5dAACl7H5dAACm7H5dAACn",
  "7H5dAACg7H5dAACh7H5dAACi7H5dAACj7H5dAACk7H5dAACl7H5dAACm7H5dAACn7H5dCACw7H5dAACxd5dAACsd5dCAC",
  "29H5dAEBw9HAABw7HAABsdAACxd5dAACgBzYAAB5dAACgBzYAACgBiaAADgBoYiaAAC07H5dAAC3d5dAACud5dCACm+H5",
  "dAABy7HAABtdAAB07HAABudAAC3d5dAADgBzYgYAADgBzYhYAADgBzYiaDABwcEEBw+HAAB27HAABvdBADgB0YgYAADgB",
  "0YhYAADgB0YiaDABwdEEBg/HAAB67HAABteAABl/HAADgBoYgYAADgBoYhYAABgDCAC87H5dAACpe5dAACue5dCAC2/H5",
  "dAAB47HAABseAAB87HAABueAACpe5dAACgBhYAACgB0YBeBgBGABwgIFACgBzZXABgBDACyhIyhIAADyhIyhIyhIBAC1h",
  "I1hIAAD1hI1hI1hIEAChBhBBACgBlYIAC/B/BAAC/BhBAAChB/BNAEyhIyhIyhIyhIHABgBQABwBAABpDCQB0BAABrBAA",
  "BywIAAB9BAEBoBAABuDAcBwBAABrBAABywIAAB9BAEBoBBABhDAABlDAABvDAAB4DAAB5SAABoDAKBrDAABwDAEBzDLAC",
  "yDzD3CADhDvBjDAADhDvBzDAABjDAACwFjDBADjDvBvDAADjDvB1DAAB7SBACwFmDAEBnDAGBoDAABnJADBpDADBsDBAB",
  "uDAACuDvDCHBwDADByDCACzDtDAAD0DlDsDAAC0DtDBAB6DBABpeBAB6DBABrDAABlHAEBiDBDBlDAABmDAABuqIAABtD",
  "AABvDAKBwuBAABpDBADmDhD4DAABgeADBzdAABgeAABxwIEDBkDAABlDAEBpDGADxBkiI3BAADxBkiI5BAAExBkiIxBwB",
  "AADxBkiIzBAADyBkiIzBAADxBkiI1BAADyBkiI1BAADzBkiI1BAAD0BkiI1BAADxBkiI2BAAD1BkiI2BAADxBkiI4BAAD",
  "zBkiI4BAAD1BkiI4BAAD3BkiI4BAACxBkiIAABpDAACpDpDAADpDpDpDAACpD2DAAB2DAAC2DpDAAD2DpDpDAAE2DpDpD",
  "pDAACpD4DAAB4DAAC4DpDAAD4DpDpDAABsDAEBjDAABtDAABpDAACpDpDAADpDpDpDAACpD2DAAB2DAAC2DpDAAD2DpDp",
  "DAAE2DpDpDpDAACpD4DAAB4DAAC4DpDAAD4DpDpDAABsDAEBjDAABtDDABksIFADwBkiIzBiFACrxIrxIAADrxIrxIrxI",
  "BACuxIuxIAADuxIuxIuxI4HEBogM1JZBxBAACxBwBAACxBxBAACxByBAACxBzBAACxB0BAACxB1BAACxB2BAACxB3BAAC",
  "xB4BAACxB5BAACyBwBAADoBxBpBAADoByBpBAADoBzBpBAADoB0BpBAADoB1BpBAADoB2BpBAADoB3BpBAADoB4BpBAAD",
  "oB5BpBAAEoBxBwBpBAAEoBxBxBpBAAEoBxByBpBAAEoBxBzBpBAAEoBxB0BpBAAEoBxB1BpBAAEoBxB2BpBAAEoBxB3Bp",
  "BAAEoBxB4BpBAAEoBxB5BpBAAEoByBwBpBUADoBhDpBAADoBiDpBAADoBjDpBAADoBkDpBAADoBlDpBAADoBmDpBAADoB",
  "nDpBAADoBoDpBAADoBpDpBAADoBqDpBAADoBrDpBAADoBsDpBAADoBtDpBAADoBuDpBAADoBvDpBAADoBwDpBAADoBxDp",
  "BAADoByDpBAADoBzDpBAADoB0DpBAADoB1DpBAADoB2DpBAADoB3DpBAADoB4DpBAADoB5DpBAADoB6DpBAsCBhDAsCBh",
  "DAABwBhpBAErxIrxIrxIrxInDAD6B6B9BAAC9B9BAAD9B9B9BlDAC92K4ZjJuEBwhLwBABhjLBABrTAAB9rHAAB9TCIBo",
  "jLBABxSAABxTAABwSAABySBABzjLCAB2jLGABqDAAB2DAEB/RA1EBhkLIFBsnLEABznL8DABhrLvJABt+azCAB/8nBMAB",
  "gwTAABoxTAAB2xTAAB/xTAAB5yTAABl0TAABs0TAABg1TAAB61TAAB/pUAABlrUAABrrUAABisUAAB2sUAABrtUAABgvU",
  "AAB1vUAABgwUAAB70UAAB53UAAB14UAAB64UAAB45UAABh6UAAB86UAABp7UAABi8UAAB29UAABo+UAABj/UAAB32VAAB",
  "/4VAABrnWAABioWAABqoWAAB1oWAABnpWAABzrWAABw6WAABg8WAAB4/WAABvgXAABihXAAB4hXAABujXAABxjXAAB7uX",
  "AABlvXAABxvXAAB+vXAAByzXAAB6zXAAB/zXAAB03XAAB+3XAABr4XAABz4XAABw6XAABh7XAABz7XAABj+XAABowYAAB",
  "2xYAABryYAABvpZAAB0pZAABnsZAAB3sZAABktZAAB5tZAABgvZAABlvZAABw3ZAABo4ZAABo5ZAABg5aAABi7aAAB57a",
  "AABz9aAABr+aAAB0+aAAB7+aAABvgbAAB0gbAAB0hbAABrjcAABqxcAAB2xcAAB7xcAAB/xcAABnycAAB5ycAAB7ycAAB",
  "s1cAABk8cAABp8cAAB8mdAABmndAAB4odAAB/odAABopdAABwpdAABrsdAABysdAAB2zdAAB9zdAABu1dAAB/1dAABu3d",
  "AAB7+dAABi/dAABz/dAAB6peAAB4teAAB+teAAB0zeAABr2eAAB53eAABzjfAAB4nfAAB25fAABx6fAABq8fAAB99fAAB",
  "hggBAABsggBAAByggBAABzhgBAAB/jgBAABpkgBAABjvgBAABqvgBAABzvgBAAB8vgBAABswgBAAB7wgBAAB/wgBAABuz",
  "gBAAByzgBAAB4zgBAABtyhBAABrzhBAABgiiBAABsiiBAABjjiBAAB+riBAABrsiBAAByuiBAABgwiBAAB3hjBAABmijB",
  "AAB1ijBAAB4jjBAAB9kjBAABkrjBAABwrjBAABztjBAABr1jBAABq2jBAAB78jBAABw9jBAAB19jBAABxkkBAABpqkBAA",
  "BmukBAABsukBAABxukBAAB3rlBAABgslBAAB8wlBAAB21lBAAB51lBAABo3lBAABx6lBAAB+6lBAABi7lBAABp7lBAABr",
  "+lBAABt/lBAABz/lBAABhgmBAABolmBAAB7mmBAAB/mmBAAB2smBAAB5smBAABstmBAABo1mBAAB42mBAAB/2mBAABl5m",
  "BAABv5mBAABy5mBAAB85mBAAB66mBAABlnnBAAB1znBAAB/znBAABl1nBAAB71nBAABj2nBAABt2nBAABx2nBAAB53nBA",
  "AB93nBAABu4nBAABz4nBAABg5nBAAB75nBAABq6nBAABy6nBAABt8nBAAB88nBAABg9nBqBABgBBABuBzBABygMBABh6U",
  "AEBk6UgDACgB5kMAACgB6kMCACokMqkM/CACzlMomMxBEBgoEAABqtEAABioEAEBstEAHBjoEAQBwtEAAB6oEAHBmoEAA",
  "BhpEAcBpoEA9BBhrEBEB0oEAEBnuEAABsuEAABuuEAABzuEAAB3uEAAB5uEAAB8oEAAB9uEAAB/uEAEB9oEAABgpEAEBi",
  "pEAABnpEAABppEANBrpEAABypEAAB2pEAABgqEAABnqEAABsqEAEBxvEAHB3qEAEBksEAABosEAEBxsEAAB0sEAAB+sEA",
  "ABhtEDABgwTAABs0TAABpwTAAB72VAABqwTAABtxTAABrwTAABypdAAB5yTAAB5wTAABhwTAABppWAABw5VAAB61TgDAD",
  "oBgoEpBAADoBioEpBAADoBjoEpBAADoBloEpBAADoBmoEpBAADoBnoEpBAADoBpoEpBAADoBroEpBAADoBsoEpBAADoBu",
  "oEpBAADoBvoEpBAADoBwoEpBAADoBxoEpBAADoByoEpBAADoBggrBpBAADoB4ksBpBAADoBk3sBpBAADoB87tBpBAADoB",
  "ouuBpBAADoB0gvBpBAADoBslwBpBAADoBkqxBpBAADoBw8xBpBAADoBohzBpBAADoB0zzBpBAADoBgm0BpBAADoBs40Bp",
  "BAADoB4q1BpBAADoB8nyBpBAAEoBkxxBkgyBpBAAEoBkxxBk21BpBBADoBgwTpBAADoBs0TpBAADoBpwTpBAADoB72VpB",
  "AADoB00TpBAADoBtrUpBAADoBjwTpBAADoBrrUpBAADoB9yTpBAADoBh6UpBAADoBo4ZpBAADoBrjcpBAADoB0hbpBAAD",
  "oBo5ZpBAADoBxukBpBAADoB/4VpBAADoBlvZpBAADoBqhapBAADoBp4ZpBAADoB+pepBAADoBtgVpBAADoB5zcpBAADoB",
  "hljBpBAADoB9qepBAADoB01UpBAADoBj3TpBAADoB8jVpBAADoBm7WpBAADoBj3dpBAADoBh4TpBAADoBnmjBpBAADoB0",
  "6UpBAADoBtrepBAADoBx4TpBAADoBqvgBpBAADoBzvgBpBAABvqVAAB8zXAABnsZAABv8eIADwD0DlDAACyBxBAACyByB",
  "AACyBzBAACyB0BAACyB1BAACyB2BAACyB3BAACyB4BAACyB5BAACzBwBAACzBxBAACzByBAACzBzBAACzB0BAACzB1BAA",
  "BgoEAEBioEAHBloEAABpoEAEBroEANBuoEAABggrBAAB4ksBAABk3sBAAB87tBAABouuBAAB0gvBAABslwBAABkqxBAAB",
  "w8xBAABohzBAAB0zzBAABgm0BAABs40BAAB4q1BAAC4hzBgnrBAAC8nyB46xBAABw1xBBABgwTAABs0TAABpwTAAB72VA",
  "AB00TAABtrUAABjwTAABrrUAAB9yTAABh6UAABo4ZAABrjcAAB0hbAABo5ZAABxukBAAB/4VAABlvZAABqhaAABp4ZAAB",
  "+peAABtgVAAB5zcAABhljBAAB9qeAAB01UAAB4ueAAB3pdAABzrWAABpjkBAABqpUAABw7UAABonbAABlgmBAABx4TAAB",
  "5sUAABj7aAABqwTAABtxTAABrwTAABmvXAABz/UAAB75UAAB38WAABm7WAABj3dAABh4TAABnmjBAAB06UAAB8oWAACzB",
  "2BAACzB3BAACzB4BAACzB5BAAC0BwBAAC0BxBAAC0ByBAAC0BzBAAC0B0BAAC0B1BAAC0B2BAAC0B3BAAC0B4BAAC0B5B",
  "AAC1BwBAACxBo4ZAACyBo4ZAACzBo4ZAAC0Bo4ZAAC1Bo4ZAAC2Bo4ZAAC3Bo4ZAAC4Bo4ZAAC5Bo4ZAADxBwBo4ZAADx",
  "BxBo4ZAADxByBo4ZAACoDnDAADlDyDnDAAClD2DAADsD0DkDAABilMAABklMAABmlMAABolMAEBqlMAABtlMAABvlMAAB",
  "xlMAABzlMAAB1lMAAB3lMAAB5lMAAB7lMAAB9lMAAB/lMAABhmMAABkmMAABmmMAABomMAQBqmMAABymMAAB1mMAAB4mM",
  "AAB7mMANB+mMAABknMAABmnMAQBonMAKBvnMAACk3TskVAAEilMxmM8nMomMAAEilMrnM1mMhlMAAEilMznM6mMilMAAD",
  "ilM8nMrnMAAEklMrmMznMwlMAADklMznMhmMAADmlMplMznMAAFolM5lMvlM8nMpmMAAEolM8nMrlM8nMAADqlMznM5lM",
  "AADqlM8nMgnMAADrlMklMqnMAAErlMpnMjmMomMAAErlMtnMqnM8nMAADslMtnMznMAADslMznM+mMAACulMslMAADulM",
  "rmM8nMAAEtlMlnMqnM8nMAAEulMrnMgmM8nMAACtlMtnMAAFtlMtnMwlMpnMgnMAAGtlMtnMhnM8nMomMrnMAAFtlMtnM",
  "vnMjmMomMAADwlMpnMgnMAAFwlMpnMgnMomMznMAAFvlMrnM8lMklMtnMAAEvlMtnM8nMtmMAADxlM8nM5lMAADzlMrnM",
  "qmMAADzlM8nM9mMAAE1lMklMvlMrnMAAF1lMznMhmM8nMgnMAAE3lMqnMznMwlMAAD7lMznMhmMAAD7lMznMomMAADgmM",
  "8nM5lMAACnmM3lMAACpmMrnMAAComMznMAACqmMumMAADumMjmMomMAADvmMklMkmMAAFxmM8nM7lMznMomMAADxmM8nM",
  "kmMAAEwmM8nMsnMrnMAAF0mMilM5lMomMrnMAAD0mMvlMrnMAAC0mMzlMAACzmMrnMAAF1mMhlMpnMjmMpmMAAE1mMjlM",
  "8nMomMAAF2mMjmM3lMnlMrnMAAD1mMpnMznMAAF4mMvlM/lM8nMrnMAAC6mM9lMAAD6mMrmMymMAAD4mMrnMkmMAAD6mM",
  "znM5lMAAD6mM8nM4lMAAD5mM8nM/lMAAE9mMklMznMomMAAD8mMrnMomMAAC7mMznMAAD9mMznMpmMAAD7mM8nMrnMAAD",
  "7mM8nMznMAAE+mMklMvlMtnMAAD+mMklMrnMAAD+mMjmMvmMAAD+mMrnMvlMAAF+mMznM3lMnnMznMAAE/mMvlMtnMznM",
  "AAC/mMqnMAAF/mMqnMwmM8nMrnMAAChnMslMAAEhnMslMomMznMAAEhnM8nMomMrnMAADknM8nMpmMAADknM8nMrnMAAD",
  "mnMilMznMAAEqnMjmMomMrnMAACqnMpnMAADrnM0mM8nMAAErnM8nM2mMrnMAACsnMgnMAAFsnMznMomMylMznMAADvnM",
  "jmMomMAACwB5lcAACxB5lcAACyB5lcAACzB5lcAAC0B5lcAAC1B5lcAAC2B5lcAAC3B5lcAAC4B5lcAAC5B5lcAADxBwB",
  "5lcAADxBxB5lcAADxByB5lcAADxBzB5lcAADxB0B5lcAADxB1B5lcAADxB2B5lcAADxB3B5lcAADxB4B5lcAADxB5B5lc",
  "AADyBwB5lcAADyBxB5lcAADyByB5lcAADyBzB5lcAADyB0B5lcAADoDwDhDAACkDhDAAChD1DAADiDhDyDAACvD2DAACw",
  "DjDAACkDtDAADkDtDyBAADkDtDzBAACpD1DAACzzXwwYAACtxZskVAACnpWj7aAACuwZ7lbAAEqhav4X64T+peAACwDhD",
  "AACuDhDAAC8dhDAACtDhDAACrDhDAACrDiDAACtDiDAACnDiDAADjDhDsDAAErDjDhDsDAACwDmDAACuDmDAAC8dmDAAC",
  "8dnDAACtDnDAACrDnDAACoD6DAADrDoD6DAADtDoD6DAADnDoD6DAAD0DoD6DAAC8dsDAACtDsDAACkDsDAACrDsDAACm",
  "DtDAACuDtDAAC8dtDAACtDtDAACjDtDAACrDtDAADtDtDyBAADjDtDyBAACtDyBAADrDtDyBAADtDtDzBAADjDtDzBAAC",
  "tDzBAADrDtDzBAADtD1wIzDAAEtD1wIzDyBAACwDhDAADrDwDhDAADtDwDhDAADnDwDhDAADyDhDkDAAFyDhDkD1wIzDA",
  "AGyDhDkD1wIzDyBAACwDzDAACuDzDAAC8dzDAACtDzDAACwD2DAACuD2DAAC8d2DAACtD2DAACrD2DAACtD2DAACwD3DA",
  "ACuD3DAAC8d3DAACtD3DAACrD3DAACtD3DAACrDpeAACtDpeBACiDxDAACjDjDAACjDkDAAEjD1wIrDnDBACkDiDAACnD",
  "5DAACoDhDAACoDwDAACpDuDAACrDrDAACrDtDAACrD0DAACsDtDAACsDuDAADsDvDnDAACsD4DAACtDiDAADtDpDsDAAD",
  "tDvDsDAACwDoDBADwDwDtDAACwDyDAACzDyDAACzD2DAAC3DiDAAD2D1wItDAADhD1wItDAACxBlvZAACyBlvZAACzBlv",
  "ZAAC0BlvZAAC1BlvZAAC2BlvZAAC3BlvZAAC4BlvZAAC5BlvZAADxBwBlvZAADxBxBlvZAADxByBlvZAADxBzBlvZAADx",
  "B0BlvZAADxB1BlvZAADxB2BlvZAADxB3BlvZAADxB4BlvZAADxB5BlvZAADyBwBlvZAADyBxBlvZAADyByBlvZAADyBzB",
  "lvZAADyB0BlvZAADyB1BlvZAADyB2BlvZAADyB3BlvZAADyB4BlvZAADyB5BlvZAADzBwBlvZAADzBxBlvZAADnDhDsDg",
  "yckCBhypBTpBBh0pBBABqiBAABsiBkEUBj5pBD8CBz5pBBABv7pBIFB67pBBAB5rHAOB/7pBEABs8pBBABlTCFBx8pBDd",
  "B38pBBABmTAAB8SAABhTAABsTAABqTBAB+UAABnUAAB9UAABz6qBAXB19pBBAB08pBAABiUAABusHAFBo+pBBABkTAXBt",
  "+pBBAB7MUABzDAABjDAABmDAABxDAAB2/pBCABnJAABzKibABn5pBAAB35qBAABrTAABy6qBJABtUGuHBg9EgqTABoijB",
  "AAB03ZAABq2jBAABomjBAABx2bAAByxTAABl/UADB88nBAABxqWAABxukBAABnsVAABoqWAAB2vYAABpzdAABl8fAAB/x",
  "hBAAB69hBAAB4niBAABvkkBAABiwaAAB7obAAB5mcAAB++cAAB9hhBAABqrkBAABxvmBAABi0TAAB17UAABk4aAAB7wcA",
  "ABtxhBAAB+wnBAABwqXAABr/bAABtuhBAABkriBAABp2YAAB4ugBAAB/giBAABq2XAAB34ZAABqrbAAB83cAABumkBAAB",
  "m8TAAB3tUAAB+2UAABkmZAABz2aAABwwcAABn3dAABhggBAABmwhBAAB8yhBAABvvjBAABy5lBAABv7mBAAB6vnBAABsk",
  "eAAB/reAABgtfAABp+gBAABk4kBAAB/znBAAB22iBAAB/mWAABk4XAABgjfAAB+jgBAABizcAABqmeAABimjBAAB33lBA",
  "AB4mWAABijXAABzwaAAB6ubAABv4bAABvpfAAB3xfAABrylBAABy2UAABrkgBAAB8uUAABsuUAAB8weAAB+tfAABx/gBA",
  "AB1zlBAABg8iBAABv2YAABiwaAAB+3iBAAB5xTAABn/WAABygYAABn8cAABwrdAAB34UAAB7neAAB/9TAABp9XAABtwTA",
  "ABsmbAAB4rZAABipfAABj+UAAB+iWAABh4dAABpihBAABq1iBAAB69aAABw9jBAABokbAAB+3YAABl3gBAABg9YAABlrd",
  "AABu1TAABprUAABpuUAABhkaAABnnfAABvzgBAABy2iBAABvukBAAB13UAABiiVAABzrWAABs3XAABluZAAB+/bAABqpe",
  "AABttlBAABqzmBAAB30nBAABu2nBAAB70UAABm2ZAAB37aAABi7jBAAB0zXAABwsYAABgwYAAB6kZAABj5bAABpqcAABp",
  "kdAABqueAAB0vfAABvjgBAABm5jBAABunhBAABjhkBAABq6kBAAB3wUAABj1UAAB9lVAABomcAABimiBAABq1iBAABp2X",
  "AAB1/XAAB77YAABu9aAAB+hfAAB17cAABk3TAAB53VAABn/WAAB6tXAAB8gYAABy9cAABpjdAAB68fAABmigBAAB0xkBA",
  "AB23lBAABo6lBAAB4gmBAABr8TAAButeAAB0tkBAAB41lBAABhnYAABm0TAAB6mUAABu/WAAB/hXAAB5sZAABiwaAABuu",
  "cAABiydAAB8nhBAAB8jkBAABt8nBAABo0ZAABuxlBAABp0UAAB77ZAABz/ZAABhqbAAB80bAABpgdAAB5qdAABrjeAABw",
  "ofAAB+imBAABtrUAABuxYAAB4zlBAABrhUAAB5oXAABqvbAABq5jBAABr8XAABkqYAAB3gaAABn8cAABm0lBAABpxUAAB",
  "vgVAABljXAABzwZAABu6ZAABolaAABlnbAABmgdAABivdAAB57fAABvmiBAABhniBAABsukBAABi3lBAAB/5UAAB61bAA",
  "B9gVAABwucAAB4kdAAB6vhBAABj1lBAAB3inBAAB/0nBAAB38ZAABrubAABovgBAABr2eAABg5eAABykfAABg2cAAB5kc",
  "AAB46iBAABg2TAAB25gBAAB6xUAABnwUAABm1XAABz2YAAB2mfAABl8WAAB+obAAB01ZAAB75jBAABsiiBAABtylBAABr",
  "siBAABz2XAABgqUAABguVCAB6iWBAB0zZCAB+uUAABq5cAABq2dAAB8peAAB+qeAABlreAABvseAAB26lBAAB+lfAAB99",
  "fBABywhBBAB43iBCAB4hkBAAB9nkBDABvnmBAAB8nmBAABopmBAAB0tnBAAB+mkBAAB31lBAABu9TAABnnUAABtqUAABp",
  "2UAABk3UAABx6UAAB9sVAABmwVAABozVAABgiWAABolWAABkjXAABujXAAB0kYAABorYAABusYAAByvYAABvqZAABivZA",
  "ABx0ZAABlkaAAB3rbAAB6wbAABi5bAABurcAABrxcAABihdAABxkeAAB+peAABpqeAABoqeAABwqeAAB2qeAAB9qeAEBt",
  "seAABgyeAABh0eAABg+eAAB0vfAABpwfAABhyfAABy7fAABlggBAABtvgBADB5zgBAAB3ihBAABwoiBAAB2siBAABh4iB",
  "AAB55iBAABzmjBAABoojBAAB29jBAAB4hkBAABj3lBAAB//lBAAB7hmBAAB1jYAABu3wEAAB4wgBCABmxTAAB1tUAABor",
  "UAABg8TAABlqUAABgsUAABn2UAAB63UAAB9sVAAB1qVAAB5sVAABivVAAB6iWAABzlWAABkqWAAB0qWAABizWAABo5WAA",
  "By2XAAB52XAABp7XAABt9XAAB4mYAABuqYAABooYAABusYAABgrYAAByvYAAB0xYAABk+YAAB8gZAAByiZAAB2qZAAB0z",
  "ZAAB34ZAAB74ZAAB26ZAAB57aAAB69aAABhqbAAB72bAABr2bAABi5bAAB+gcAABurcAABn9dAAB1xcAABv1cAABq5cAA",
  "BxjdAABmodAAB7pdAAB9wdAAB/wdAABq2dAAB72dAAB03dAABq6dAABg6dAABsmeAABx1eAABg+eAAB7jfAAB7qfAAB0v",
  "fAAB+5fAABlggBAABy6gBAABv/gBAAB57hBAABhqiBAABmsiBAAB2siBAAB/1iBAAB43iBAABr2iBAABh4iBAAB+3iBAA",
  "Bt3iBAAB55iBAABq8iBAABoojBAAB45jBAAByjkBAAB5skBAAB2zkBAAB8zlBAABj3lBAAB26lBAAB7+lBAAB//lBAABr",
  "gmBAAB7hmBAABy4mBAAB88nBAABqiqEAABkiqEAAB1+sEAAB98OAAB4gQAAB5hQAABpy0EAABwm3EAABz2/EAABj6nBAA",
  "Bu8nBmBACmDmDAACmDpDAACmDsDAADmDmDpDAADmDmDsDADCzD0DMAC0rB2rBAAC0rBlrBAAC0rBrrBAAC+rB2rBAAC0r",
  "BtrBFAC5uB0tBBACyvB3tBAABivBAABwuBAEBzuBAHB7uBAABovBAABqvBAABrBAACpvBhuBAACpvBiuBAADpvB8tBhuB",
  "AADpvB8tBiuBAACwuB3tBAACwuB4tBAACwuB8tBAACxuB8tBAACyuB8tBAACzuB8tBAAC0uB8tBAAC1uB8tBAAC2uB8tB",
  "BAC4uB8tBAAC5uB8tBAAC6uB8tBAAC7uB8tBAAC8uB8tBBAC+uB8tBBACgvB8tBAAChvB8tBBACjvB8tBAACkvB8tBBAC",
  "mvB8tBAACnvB8tBAACovB8tBAACpvB8tBAACqvB8tBAAC1uB5tBAACxuB/tBAAC7uB/tBAACkvB/tBAACwuB8uBADBxzB",
  "AJB7zBAJB+zBAJBg0BAJB6zBAJB/zBAJB5zBAJBk1BAJBm1BAJBk0BAJBj0BAJBm0BAJBn0BADBt0BADBs0BADBu0BADB",
  "o0BADB40BADBx0BAJBp1BAJBv1BAJBz1BAJBx1BADB61BAJB71BADBg2BAJBh2BAJB+1BADBy2BADBz2BhBJBt1BADBn2",
  "BADBm2BADBo2BAACn2B0zBADBr2BADBl2BADBp2BAJBw2BADBpyBADCmxBnxBADCmxB12BADCmxBoyBADCmxBn2BADCmx",
  "Bm2BADCmxBo2BAGCmxBw2BAGCmxBpyBAJBs2BAACmxBsxBAACmxBtxBAACmxBlyBAACmxBpyBAACmxBqyBAACoxBsxBAA",
  "CoxBtxBAACoxBuxBAACoxBlyBAACoxBpyBAACoxBqyBAACqxBsxBAACqxBtxBAACqxBuxBAACqxBlyBAACqxBpyBAACqx",
  "BqyBAACrxBsxBAACrxBlyBAACrxBpyBAACrxBqyBAACsxBtxBAACsxBlyBAACtxBsxBAACtxBlyBAACuxBsxBAACuxBtx",
  "BAACuxBlyBAACzxBsxBAACzxBtxBAACzxBuxBAACzxBlyBAAC1xBtxBAAC1xBlyBAAC2xBsxBAAC2xBtxBAAC2xBuxBAA",
  "C2xBlyBAAC3xBtxBAAC3xBlyBAAC4xBlyBAAC5xBsxBAAC5xBlyBAAC6xBsxBAAC6xBlyBAAChyBsxBAAChyBtxBAAChy",
  "BuxBAAChyBlyBAAChyBpyBAAChyBqyBAACiyBtxBAACiyBlyBAACiyBpyBAACiyBqyBAACjyBnxBAACjyBsxBAACjyBtx",
  "BAACjyBuxBAACjyBkyBAACjyBlyBAACjyBpyBAACjyBqyBAACkyBsxBAACkyBtxBAACkyBuxBAACkyBlyBAACkyBpyBAA",
  "CkyBqyBAAClyBsxBAAClyBtxBAAClyBuxBAAClyBlyBAAClyBpyBAAClyBqyBAACmyBsxBAACmyBtxBAACmyBuxBAACmy",
  "BlyBAACmyBpyBAACmyBqyBAACnyBsxBAACnyBlyBAACnyBpyBAACnyBqyBAACqyBsxBAACqyBtxBAACqyBuxBAACqyBly",
  "BAACqyBpyBAACqyBqyBAACwxBwzBAACxxBwzBAACpyBwzBAADgBsyBxyBAADgBtyBxyBAADgBuyBxyBAADgBvyBxyBAAD",
  "gBwyBxyBAADgBxyBwzBAACmxBxxBAACmxByxBAACmxBlyBAACmxBmyBAACmxBpyBAACmxBqyBAACoxBxxBAACoxByxBAA",
  "CoxBlyBAACoxBmyBAACoxBpyBAACoxBqyBAACqxBxxBAACqxByxBAACqxBlyBAACqxBmyBAACqxBpyBAACqxBqyBAACrx",
  "BxxBAACrxByxBAACrxBlyBAACrxBmyBAACrxBpyBAACrxBqyBAAChyBpyBAAChyBqyBAACiyBpyBAACiyBqyBAACjyBnx",
  "BAACjyBkyBAACjyBlyBAACjyBpyBAACjyBqyBAACkyBlyBAACkyBpyBAACkyBqyBAAClyBnxBAAClyBlyBAACmyBxxBAA",
  "CmyByxBAACmyBlyBAACmyBmyBAACmyBpyBAACmyBqyBAACpyBwzBAACqyBxxBAACqyByxBAACqyBlyBAACqyBmyBAACqy",
  "BpyBAACqyBqyBAACmxBsxBAACmxBtxBAACmxBuxBAACmxBlyBAACmxBnyBAACoxBsxBAACoxBtxBAACoxBuxBAACoxBly",
  "BAACoxBnyBAACqxBsxBAACqxBtxBAACqxBuxBAACqxBlyBAACqxBnyBAACrxBlyBAACsxBtxBAACsxBlyBAACtxBsxBAA",
  "CtxBlyBAACuxBsxBAACuxBlyBAACzxBsxBAACzxBtxBAACzxBuxBAACzxBlyBAAC1xBtxBAAC1xBuxBAAC1xBlyBAAC2x",
  "BsxBAAC2xBtxBAAC2xBuxBAAC2xBlyBAAC3xBtxBAAC4xBlyBAAC5xBsxBAAC5xBlyBAAC6xBsxBAAC6xBlyBAAChyBsx",
  "BAAChyBtxBAAChyBuxBAAChyBlyBAACiyBtxBAACiyBlyBAACjyBsxBAACjyBtxBAACjyBuxBAACjyBkyBAACjyBlyBAA",
  "CkyBsxBAACkyBtxBAACkyBuxBAACkyBlyBAACkyBnyBAAClyBsxBAAClyBtxBAAClyBuxBAAClyBlyBAACmyBsxBAACmy",
  "BtxBAACmyBuxBAACmyBlyBAACmyBnyBAACnyBsxBAACnyBlyBAACnyBwzBAACqyBsxBAACqyBtxBAACqyBuxBAACqyBly",
  "BAACqyBnyBAACmxBlyBAACmxBnyBAACoxBlyBAACoxBnyBAACqxBlyBAACqxBnyBAACrxBlyBAACrxBnyBAACzxBlyBAA",
  "CzxBnyBAAC0xBlyBAAC0xBnyBAACjyBkyBAACjyBlyBAACkyBlyBAACmyBlyBAACmyBnyBAACqyBlyBAACqyBnyBAADgy",
  "BuyBxyBAADgyBvyBxyBAADgyBwyBxyBAAC3xBpyBAAC3xBqyBAAC5xBpyBAAC5xBqyBAAC6xBpyBAAC6xBqyBAACzxBpy",
  "BAACzxBqyBAAC0xBpyBAAC0xBqyBAACtxBpyBAACtxBqyBAACsxBpyBAACsxBqyBAACuxBpyBAACuxBqyBAAC1xBpyBAA",
  "C1xBqyBAAC2xBpyBAAC2xBqyBAAC0xBsxBAAC0xBtxBAAC0xBuxBAAC0xBlyBAAC0xBxxBAACzxBxxBAAC1xBxxBAAC2x",
  "BxxBAAC3xBpyBAAC3xBqyBAAC5xBpyBAAC5xBqyBAAC6xBpyBAAC6xBqyBAACzxBpyBAACzxBqyBAAC0xBpyBAAC0xBqy",
  "BAACtxBpyBAACtxBqyBAACsxBpyBAACsxBqyBAACuxBpyBAACuxBqyBAAC1xBpyBAAC1xBqyBAAC2xBpyBAAC2xBqyBAA",
  "C0xBsxBAAC0xBtxBAAC0xBuxBAAC0xBlyBAAC0xBxxBAACzxBxxBAAC1xBxxBAAC2xBxxBAAC0xBsxBAAC0xBtxBAAC0x",
  "BuxBAAC0xBlyBAACzxBnyBAAC0xBnyBAAC3xBlyBAACzxBsxBAACzxBtxBAACzxBuxBAAC0xBsxBAAC0xBtxBAAC0xBux",
  "BAAC3xBlyBAAC4xBlyBADCnxBryBSADqxBsxBlyBADDqxBtxBsxBAADqxBtxBlyBAADqxBuxBlyBAADqxBlyBsxBAADqx",
  "BlyBtxBAADqxBlyBuxBADDsxBlyBtxBAADtxBlyBqyBAADtxBlyBpyBAADzxBtxBsxBAADzxBsxBtxBAADzxBsxBpyBAD",
  "DzxBlyBtxBAADzxBlyBsxBADDzxBlyBlyBADD1xBtxBtxBAAD1xBlyBlyBADD0xBtxBlyBAAD0xBsxBqyBADD0xBlyBux",
  "BADD0xBlyBlyBAAD2xBtxBpyBADD2xBuxBlyBADD3xBlyBtxBAAD3xBlyBlyBAAD3xBlyBqyBAAD5xBsxBlyBADD5xBly",
  "BlyBAAD5xBlyBpyBAAD6xBlyBlyBAAD6xBlyBqyBAAD6xBlyBpyBADDhyBuxBlyBAADiyBlyBtxBAADiyBlyBlyBAADky",
  "BtxBlyBAADkyBtxBqyBAADkyBtxBpyBADDkyBsxBsxBADDkyBuxBlyBADDkyBlyBtxBAADlyBtxBsxBAADlyBtxBlyBAA",
  "DlyBtxBqyBAADlyBsxBtxBAADlyBsxBlyBAADlyBuxBsxBAADlyBuxBlyBCADlyBsxBuxBAADnyBlyBsxBAADnyBlyBly",
  "BAADmyBtxBlyBAADmyBtxBpyBADDmyBsxBlyBAADmyBsxBpyBAADmyBlyBqyBAADmyBlyBpyBADDqyBlyBlyBAADoxBux",
  "BqyBAADqxBsxBqyBAADqxBsxBpyBAADqxBuxBqyBAADqxBuxBpyBAADqxBlyBqyBAADqxBlyBpyBAADsxBlyBqyBAADsx",
  "BtxBpyBAADsxBlyBpyBAADzxBuxBpyBAAD1xBtxBqyBAAD0xBtxBqyBAAD2xBtxBqyBAADkyBsxBqyBAADkyBlyBqyBAA",
  "DqyBtxBqyBAADqyBsxBqyBAADqyBlyBqyBAADlyBlyBqyBAADiyBlyBqyBAADmyBtxBqyBAADiyBlyBtxBAADkyBtxBly",
  "BAAD5xBlyBqyBAADjyBlyBqyBAADmyBsxBtxBAADlyBuxBqyBAADkyBsxBlyBAADjyBlyBlyBAADkyBsxBlyBAADmyBsx",
  "BtxBAADsxBtxBqyBAADtxBsxBqyBAADlyBsxBqyBAADhyBlyBqyBAADoxBtxBqyBAADjyBlyBlyBAAD5xBsxBlyBAAD1x",
  "BlyBlyBAADzxBuxBqyBAADmyBsxBqyBoBAD1xBkyBy2BAADiyBkyBy2BAAEnxBkyBkyBnyBAAEnxBjyBoxBxxBAAElyBt",
  "xBlyBvxBAAE1xBkyB5xBlyBAAExxBzxBoyBkyBAAE5xBkyBqyBnyBAAEoyBzxBkyBlyBAAD1xBkyBpyBAAS1xBkyBpyBg",
  "BnxBkyBkyBnyBgB5xBkyBqyBnyBgBoyBzxBkyBlyBAAIsxBkyBgBsxBkyBnxBkyBnyBAAExxBs2BnxBkyBTABsBAABhgM",
  "BEB6BAABhBAAB/BAEB2gMYAB0gIAABzgIADB/CAEBoBAAB7DAAB9DAEB0gMAEBwgMAEBqgMAEBogMAKBsgMCAB7CAAB9C",
  "AJCgBlYAGB/CAABsBAABhgMCAB7BAAB6BAAB/BAABhBAAB0gIAEBoBAAB7DAAB9DAEB0gMAABjBAABmBAEBqBAABtBAAB",
  "8BAAB+BAAB9BBAB8CAEBkBAABgCEACgBryBAACgyBryBAACgBsyBBACgBtyBBACgBuyBAACgyBuyBAACgBvyBAACgyBvy",
  "BAACgBwyBAACgyBwyBAACgBxyBAACgyBxyBAACgByyBAACgyByyBAEBhxBAEBixBAEBjxBAEBkxBAEBlxBAGBmxBADBnx",
  "BAJBoxBADBpxBAJBqxBAJBrxBAJBsxBAJBtxBAJBuxBADBvxBADBwxBADBxxBADByxBAJBzxBAJB0xBAJB1xBAJB2xBAJ",
  "B3xBAJB4xBAJB5xBAJB6xBAJBhyBAJBiyBAJBjyBAJBkyBAJBlyBAJBmyBAJBnyBADBoyBADBpyBAJBqyBADCkyBixBAD",
  "CkyBjxBADCkyBlxBADCkyBnxBE+CBhBAsCBhDAqDB7CAEBlsKAABuBAEBsgMAABhgMAAB7nMAABynMAABhlMAABjlMAAB",
  "llMAABnlMAABplMAABjnMAABlnMAABnnMAABjmMAAB8nMAABilMAABklMAABmlMAABolMAEBqlMAABtlMAABvlMAABxlM",
  "AABzlMAAB1lMAAB3lMAAB5lMAAB7lMAAB9lMAAB/lMAABhmMAABkmMAABmmMAABomMAQBqmMAABymMAAB1mMAAB4mMAAB",
  "7mMANB+mMAABknMAABmnMAQBonMAABvnMAABznMAEB5kMBEBgoEAABqtEAABioEAEBstEAHBjoEAQBwtEAAB6oEAHBmoE",
  "AABhpEAcBpoEDQBhrECQBnrECQBtrECHBzrEDEBiFAABsFAACgBkYAABmFAABlFAABplIBABioJAKBwsIAABgtJAABruJ",
  "xgB2DBohhCoEqDB4mhC8EfB3shCBrBBjthCBTBzthCBEB7thCrPEBwWAABmHAAB5UAABzSBABjVAABm7qBAABlVAABkVA",
  "EB2SAABxsHAAB4SAAB+SAABpVAABkTAABiTAABgTAAB7UAABnJAAB8UAABnTAABkUAEBqVAABsTAABk43DAABu8pBAABu",
  "TAABl43DAABuUAABm43DAAB4HAEB2TAABxDAAB6TAABo43DAEB9TAABgUAABoVAABmVAABn7qBAABnVAABoUAABxjLBAB",
  "vUAEBhVAAB4UAHBgOAABq43DAAB+43DlmB3EBgmjC9EgCBwrjC65C+CBgmmCgsV+CBgz7CgCpCB717C9wXsCBhDAcBwBk",
  "jBAC3q0Dlr0DAAC4q0Dlr0DAAD4q0Dlr0Dur0DAAD4q0Dlr0Dvr0DAAD4q0Dlr0Dwr0DAAD4q0Dlr0Dxr0DAAD4q0Dlr0",
  "Dyr0D2CAC5t0Dlr0DAAC6t0Dlr0DAAD5t0Dlr0Dur0DAAD6t0Dlr0Dur0DAAD5t0Dlr0Dvr0DAAD6t0Dlr0Dvr0D/RsCB",
  "hDAsCBhDAsCBhDATBhDB0BBpDAsCBhDAsCBhDAFBhDAABkDCABnDCEBqDCKBuDBWBzDAKBhDBFBmDAQBpDBfBwDAsCBhD",
  "AsCBhDAEBhDBKBkDCWBqDBTBzDBsCBhDAEBhDBKBkDBNBpDBABvDDTBzDBsCBhDAsCBhDAsCBhDAsCBhDAsCBhDAsCBhD",
  "AsCBhDAsCBhDAsCBhDAsCBhDAsCBhDAsCBhDAsCBhDAABxJAAB3RCxBBxdAAB4dATBjeAABnwIAxBBxdADBjeAQBkeAAB",
  "iwIAAB1dAAB4dAAB6dAABmeAABheAABgeAxBBxdAAB4dATBjeAABnwIAxBBxdADBjeAQBkeAABiwIAAB1dAAB4dAAB6dA",
  "ABmeAABheAABgeAxBBxdAAB4dATBjeAABnwIAxBBxdADBjeAQBkeAABiwIAAB1dAAB4dAAB6dAABmeAABheAABgeAxBBx",
  "dAAB4dATBjeAABnwIAxBBxdADBjeAQBkeAABiwIAAB1dAAB4dAAB6dAABmeAABheAABgeAxBBxdAAB4dATBjeAABnwIAx",
  "BBxdADBjeAQBkeAABiwIAAB1dAAB4dAAB6dAABmeAABheAABgeADB9eCcBwBAcBwBAcBwBAcBwBAcBwBwhCZBwhBAHB6h",
  "BAfB+hBAABriBAEBtiBAABp0pBAAB5mBAAB2iBAAB4iBAABpnBAABvlBAABvmBAZBwhBAEB6hBAEB+hBAABhiBAQBjiBA",
  "EBqiBAABxkBAAB2iBAAB1iBAAB/iBAABrlBAABxypBAABxlBykCkDBip6D+mBEBnxBAABsxBAABvxBBABoyBAAByxBAAB",
  "txBAAB3xBAABqyBAKBjyBAABzxBAAB5xBAABhyBAAB1xBAABiyBAABxxBAAB0xBAEBqxBAABuxBAABwxBAAB2xBAAB4xB",
  "AAB6xBAABuzBAAB61BAABh1BAABvzBBABoxBAABsxBBABnyBCABtxBBABqyBAKBjyBAABzxBAAB5xBAABhyBAAB1xBAAB",
  "iyBBAB0xBAEBqxBAABuxBBAB2xBBAB6xBGABsxBEABtxBBABqyBBFBkyBAABzxBAAB5xBBAB1xBAABiyBBAB0xBCABuxB",
  "BAB2xBBAB6xBBAB61BBABvzBBABoxBAABsxBBABnyBCABtxBAAB3xBAABqyBAFBjyBAABmyBAABzxBAAB5xBAABhyBAAB",
  "1xBAABiyBBAB0xBAEBqxBAABuxBBAB2xBAAB4xBAAB6xBAABuzBBABh1BBEBnxBAABsxBAABvxBAEBnyBAAByxBAABtxB",
  "AAB3xBAABqyBBHBkyBAABzxBAAB5xBAABhyBAAB1xBAABiyBAABxxBAAB0xBAEBqxBAABuxBAABwxBAAB2xBAAB4xBAAB",
  "6xBFABoxBAABsxBAABvxBBABoyBAAByxBAABtxBAAB3xBAABqyBBHBkyBAABzxBAAB5xBAABhyBAAB1xBAABiyBAABxxB",
  "AAB0xBAEBqxBAABuxBAABwxBAAB2xBAAB4xBAAB6xBlSACwBsBAACxBsBAACyBsBAACzBsBAAC0BsBAAC1BsBAAC2BsBA",
  "AC3BsBAAC4BsBAAC5BsBFADoBhDpBAADoBiDpBAADoBjDpBAADoBkDpBAADoBlDpBAADoBmDpBAADoBnDpBAADoBoDpBA",
  "ADoBpDpBAADoBqDpBAADoBrDpBAADoBsDpBAADoBtDpBAADoBuDpBAADoBvDpBAADoBwDpBAADoBxDpBAADoByDpBAADo",
  "BzDpBAADoB0DpBAADoB1DpBAADoB2DpBAADoB3DpBAADoB4DpBAADoB5DpBAADoB6DpBAAD0gMzD1gMAABjDAAByDAACj",
  "DkDAAC3D6DBsCBhDAACoD2DAACtD2DAACzDkDAACzDzDAADwDwD2DAAC3DjDaACtDjDAACtDkDAACtDyDjBACkDqDvDAC",
  "7jMriMAACzlMzlMAAB1lMNABryYAAB36WAABs+UAABnmMAABs0TAAB6oWAABjviBAABppWAABk1TAABgxZAABhpcAAB5s",
  "ZAABtyUAABs8XAABtsUAABwtZAAB9wUAABiqfAAB/odAABpljBAABwnWAAB5hVAAB04bAAB10YAAB16YAABgwTAABpwTA",
  "ABqikBAABmvXAABtxTAABz/UAABn4YAABwrjBAABzyYAABhseAAB6zeAABogVAABg0bAABp4ZAABo4ZAABzpdAAByzUAA",
  "B2tVAABtqkBEAD0gMs5Z1gMAAD0gMpwT1gMAAD0gMs0T1gMAAD0gMp8W1gMAAD0gM5lc1gMAAD0gMzyY1gMAAD0gM32d1",
  "gMAAD0gM92U1gMAAD0gM3qZ1gMHAB38XAABv/U+sCcBwBmg/BAB9xTAAB4xTAABhyTAABipgEAABg7TAABu9TAAB79TAA",
  "BigUAAB6jUAAB5kUAABnnUAABvmUAAB+kNAAB6xhEAABtqUAAB0qUAABkrUAAB3rUAAB8ohEAAB5lNAABnrUAABtsUAAB",
  "rqhEAAB3sUAABktUAABs2TAABstUAAB1tUAAB/ukFAAB1vUAABjwUAAB/mNAAB7xUAABmyUAAByzUAAB3zUAAB1oNAABn",
  "2UAABp2UAABk3UAAB63UAEBl4UAAB34UAABp6UAABx6UAAB66UAABz7UAAB97UAGB/7UAABsxiEAABwjcAABq+UAAB/+U",
  "AABj7iEAABr/UAABx/UAABmgVAAB+kVAAB4hVAABoiVAABojVAABilVAAB2nVAABwoVAABzqVAABjrVADBksVAAB5sVAA",
  "BrtVAABztVAABiuVAAB24VAABmwVAAB34VAABxyVAAB0zVAABnwUAABunWAABu+VAAB0/VAABtgWAABr8VAAByhWAABxh",
  "WAABslWAABknlEAABynWAAB3nWAABmoWAAB6oWAABipWAABirWAABo1lEAABq3lEAABsvWAAB7wWAABnxWAAB4uWAABmz",
  "WAABu3NAAB83NAABo4WADB+5WAABoumEAABj+WAAB4+WAABn/WAABz/WAAB44mEAAB//WAABmgXAABz6XAABihXAABh8N",
  "AABgjXAABujXAABgmXAABtkXAABkvnEAABjqXAABmvnEAABurXAABrrXAAB8rXAEBhvXAABvhOAAB9vXAABoxXAAB9xXA",
  "ABpzXAABijOAABjsoEAAB8jOAABw1XAABz1XAAB21XAABq2XAABy8oFAAB+3XADBx5oEAABhwgBADBi5XAABnmOAAB41s",
  "EAAB6u4EAABi7XAABr7XAABjnOAAB68XAABt+XAAB3+XAAB5/XAABhkYAAB6pOAAB8oOAAB0kYAAB02pEAABnmYAABoqY",
  "AABsqYAABuqYAABsqYAAB6rYAABusYAABytYAABktYAABvtYAAB+uYAAByvYAAB2vYAABwwYAAB7wYAAB9yYAABx1YAAB",
  "02YAABw6YAABs4qEAAB95YAAB83YAABo7YAABj8YAABk/YAABx/qEAABihZAABl+YAABp9YAABuxOAABpjZAAB+jZAAB9",
  "kZAAB3jZAABszOAABvqZAABsrZAABqgsEAABjvZAAB43ZAABpyZAAB54OAABx0ZAABo4OAABk3OAABysUAAB1sUAABg4Z",
  "AAB80ZAABtlgBAAB5+QAAB34ZAAB74ZAABh5ZAAB+6ZAABz6ZAABj+sEAABp6OAAB6/ZAABl8ZAAByiaAABlkaAABtjtE",
  "AABukaAAB/gaAAB0oaAAB98OAABiqaAABjtaAABqvaAABo1aAABj1tEAAB72aAAB4gPAABh5aAABnluEAAB06aAABuiPA",
  "ABy7aAAB/8aAEB69aAABt0uEAABronEAAB63uEAABuibAAB8lvEAAB/lbAABtmbAABnjbAAB2obAAB+pbAAB3rbAABhqb",
  "AABprbAAB4rbAABlsbAAB+ovEAAB0pbAABvxbAABuzbAABzpPAABr2bAABn2bAABx2vEAAB5vbAABu7bAAB+6vEAABu8v",
  "EAABm+bAAB5hcAAB+gcAAB7gcAAB2sPAABqicAAB9jcAAB3jcAABtlcAABlphEAABlqcAABjzwEAAB8scAABr9wEAABox",
  "cAAB1xcAABwycAABowxEAABg0cAAB10cAAB15xEAAB0gyEAAB67cAABr8cAABs1PAABl9cADB41PAABnidAAB8idAABxj",
  "dAABlkdAABqmdAAB74PAABkpdAAB2hzEAAB+pdAABykzEAABwrdAAB/soEAABwwdAABh9zEAAB49zEAABki0EAAB8/PAA",
  "BogQAAB03dAABzn0EAAByn0EAAB5o0EAABzp0EAEB+4dAAB/4dAABq6dAAB5hQAABr8dAABmiQAAB2kQAAB9g1EAABuie",
  "AABskeAABsmeAABjnQAABmx1EAAB2qeAAB601EAABl21EAABvseAABrveAABvpQAABgyeAABqyeAABvyeAAB8r2EADBn1",
  "2EAABu3eAABiwQAABr92EAABm+eAABp+eAABnxQAABgk3EAABymfAABg1QAABonfAABjnfAABgofAABm83EAABjrfAABh",
  "4QAABnufAABiwfAABlyfAAB05QAABox4EAABny4EAAB56QAAB524EAAB67fAAB+54EAAB18fAAB6/fAABlggBAAB6m5EA",
  "ABjp5EAABgjgBAABot5EAABwjgBAAB/6sEAAB1+QAABylgBAABjogBAABrgRAAB+pgBAAB11WAABn95EAAB195EAABz8s",
  "EAAB88sEAABhwgBAABkwgBAAB+8jBAABrjRAABx0gBAABr0gBAAB90gBAABz1UAABx1gBAABz1gBAAB91gBAABm3gBAAB",
  "856EAABl3gBAAB94gBAABj7gBAABt9gBAABj5gBAAB99gBAABn/gBAAB3ihBAABz6gBAABq+gBAABs+gBAAB8+gBAAB2h",
  "7EAABrr7EAAB1m7EAABrpRAABxnhBAABznhBAAB2ohBAABq+8EAABkrhBAABs57EAAB9qRAABhrRAABx97EAABym8EAAB",
  "rrRAABwyhBAAB8yhBAABnzhBAABpzhBAABp1hBAABo0hBAABu4hBAABi3hBAAB57hBAABo5hBAABr7hBAABm8hBAAB3uR",
  "AABh/hBAABhgiBAAB5vRAABgjiBAABjjiBAABnz9EAAB3miBAAB+miBAAB1xRAAB6niBAAB7lNAABul+EAABmr+EAAB+1",
  "RAABn2RAABg1iBAABt3iBAABq8iBAAB1ijBAABol/EAABrljBAABhmjBAAB7ojBAAB3rjBAABv5/EAABkgiEAABrujBAA",
  "B8tjBAABwvjBAAB+miEAAB02jBAAB45jBAAByuhFAABtvhFAAB0kkBAABxnkBAABxokBAABu5hFAAB7okBAAB4xkBAEB3",
  "2kBAAB8zkBAAB5/kBAAB1glBAAB6/iFAABrslBAAB1sSAAB3tlBAAB3rjFAABmvSAABj2lBAABytXAABj5lBAABlqkFAA",
  "B6wkFAABuzSAAB2zSAABg/lBAABqglFAABy1SAAB2klFADBrgmBAABphmBAAB2tlFAABinmBAABz5SAABppmBAABntmBA",
  "ABiumBAAB+vmBAABu+SAABw5mFAABy4mBAABginBAAB9nnBAABumTAABtnTAABnrnBAABumoFAAB4nTAABlooFAABuwoF",
  "AABx0oFAAB71nBAAB2qTAAB53nBAAB+3nBAABl4nBAABv4nBAAB24nBAAB75nBAABgwpF"]

end ApiContract.Unicode
