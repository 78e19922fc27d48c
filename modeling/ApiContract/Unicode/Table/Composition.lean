/-
This file holds the characters that stand for two others, and the classes of the marks that may
change places.
-/

namespace ApiContract.Unicode

/-- The characters that stand for two others: the distance to the last one, and the two. -/
def compositionTable : String := String.join [
  "gGhCgYAhChYAhCiYAhCjYAhCoYAhCqYBjCnZAlCgYAlChYAlCiYAlCoYApCgYApChYApCiYApCoYBuCjYAvCgYAvChYAv",
  "CiYAvCjYAvCoYC1CgYA1ChYA1CiYA1CoYA5ChYChDgYAhDhYAhDiYAhDjYAhDoYAhDqYBjDnZAlDgYAlDhYAlDiYAlDoY",
  "ApDgYApDhYApDiYApDoYBuDjYAvDgYAvDhYAvDiYAvDjYAvDoYC1DgYA1DhYA1DiYA1DoYA5DhYB5DoYAhCkYAhDkYAhC",
  "mYAhDmYAhCoZAhDoZAjChYAjDhYAjCiYAjDiYAjCnYAjDnYAjCsYAjDsYAkCsYAkDsYClCkYAlDkYAlCmYAlDmYAlCnYA",
  "lDnYAlCoZAlDoZAlCsYAlDsYAnCiYAnDiYAnCmYAnDmYAnCnYAnDnYAnCnZAnDnZAoCiYAoDiYCpCjYApDjYApCkYApDk",
  "YApCmYApDmYApCoZApDoZApCnYDqCiYAqDiYArCnZArDnZBsChYAsDhYAsCnZAsDnZAsCsYAsDsYEuChYAuDhYAuCnZAu",
  "DnZAuCsYAuDsYDvCkYAvDkYAvCmYAvDmYAvCrYAvDrYCyChYAyDhYAyCnZAyDnZAyCsYAyDsYAzChYAzDhYAzCiYAzDiY",
  "AzCnZAzDnZAzCsYAzDsYA0CnZA0DnZA0CsYA0DsYC1CjYA1DjYA1CkYA1DkYA1CmYA1DmYA1CqYA1DqYA1CrYA1DrYA1C",
  "oZA1DoZA3CiYA3DiYA5CiYA5DiYA5CoYA6ChYA6DhYA6CnYA6DnYA6CsYA6DsYhBvC7YAvD7YN1C7YA1D7YchCsYAhDsY",
  "ApCsYApDsYAvCsYAvDsYA1CsYA1DsYA8GkYA8HkYA8GhYA8HhYA8GsYA8HsYA8GgYA8HgYBkGkYAkHkYAmRkYAnRkYAmG",
  "kYAmHkYCnCsYAnDsYArCsYArDsYAvCoZAvDoZAqPkYArPkYA3NsYAyUsYAqDsYDnChYAnDhYCuCgYAuDgYAlGhYAlHhYA",
  "mGhYAmHhYA4GhYA4HhYAhCvYAhDvYAhCxYAhDxYAlCvYAlDvYAlCxYAlDxYApCvYApDvYApCxYApDxYAvCvYAvDvYAvCx",
  "YAvDxYAyCvYAyDvYAyCxYAyDxYA1CvYA1DvYA1CxYA1DxYAzCmZAzDmZA0CmZA0DmZCoCsYAoDsYGhCnYAhDnYAlCnZAl",
  "DnZA2GkYA2HkYA1GkYA1HkYAvCnYAvDnYAuRkYAvRkYA5CkYA5DkYxKoFhYAxchYB1chYA3chYA5chYB/chYBldhYApdh",
  "YAqehYZ5coYAldoYAxdhYA1dhYA3dhYA5dhYArehYZ5doYAleoYA/dhYAlehYApehYEyehYAyeoYrB1gBgYA1gBoYBzgB",
  "hYDmgBoYE6gBhYA4gBgYAjhBmYK4gBmYf4hBmYW1hBgYA1hBoYBzhBhYD2iBoYE6hBhYA4hBgYAjiBmYX0jBvYA1jBvYp",
  "C2gBmYA2hBmYNwgBmYAwhBmYAwgBoYAwhBoYC1gBmYA1hBmYC4mBoYA5mBoYA2gBoYA2hBoYA3gBoYA3hBoYC4gBkYA4h",
  "BkYA4gBoYA4hBoYA+gBoYA+hBoYConBoYApnBoYAthBoYAtiBoYAjhBkYAjiBkYAjhBoYAjiBoYAjhBrYAjiBrYAnhBoY",
  "AniBoYCrhBoYAriBoYoJnxBzyBAnxB0yBAoyB0yBAnxB1yBAqyB0yB5E12B0yBBh2B0yBQy2B0yB1SopC8pCHwpC8pCCz",
  "pC8pC2EnuC+tCAnuC3uC7Ln6C26CCn6C+5CAn6C36CnCy8C3+C1Bm+C+9CAn+C+9CAm+C3+C7DmiD2iD3D/lD1mDGmmD1",
  "mDAmmD2mDBmmDimDAqmD1mD+DmqD+pDAnqD+pDAmqD3qDtE5uDquDB5uDvuDA8uDquDA5uD/uDnSlhEuhE/2Cl4G15GBn",
  "4G15GBp4G15GBr4G15GBt4G15GDx4G15GoB65G15GB85G15GC+5G15GA/5G15GBi6G15G8VhClZAhDlZAiCnYAiDnYAiC",
  "jZAiDjZAiCxZAiDxZAnGhYAnHhYAkCnYAkDnYAkCjZAkDjZAkCxZAkDxZAkCnZAkDnZAkCtZAkDtZAyIgYAzIgYAyIhYA",
  "zIhYAlCtZAlDtZAlCwZAlDwZAoRmYApRmYAmCnYAmDnYAnCkYAnDkYAoCnYAoDnYAoCjZAoDjZAoCoYAoDoYAoCnZAoDn",
  "ZAoCuZAoDuZApCwZApDwZAvGhYAvHhYArChYArDhYArCjZArDjZArCxZArDxZAsCjZAsDjZA2xHkYA3xHkYAsCxZAsDxZ",
  "AsCtZAsDtZAtChYAtDhYAtCnYAtDnYAtCjZAtDjZAuCnYAuDnYAuCjZAuDjZAuCxZAuDxZAuCtZAuDtZA1GhYA1HhYA1G",
  "oYA1HoYAsKgYAtKgYAsKhYAtKhYAwChYAwDhYAwCnYAwDnYAyCnYAyDnYAyCjZAyDjZA6yHkYA7yHkYAyCxZAyDxZAzCn",
  "YAzDnYAzCjZAzDjZA6KnYA7KnYAgLnYAhLnYAizHnYAjzHnYA0CnYA0DnYA0CjZA0DjZA0CxZA0DxZA0CtZA0DtZA1CkZ",
  "A1DkZA1CwZA1DwZA1CtZA1DtZAoLhYApLhYAqLoYArLoYA2CjYA2DjYA2CjZA2DjZA3CgYA3DgYA3ChYA3DhYA3CoYA3D",
  "oYA3CnYA3DnYA3CjZA3DjZA4CnYA4DnYA4CoYA4DoYA5CnYA5DnYA6CiYA6DiYA6CjZA6DjZA6CxZA6DxZAoDxZA0DoYA",
  "3DqYA5DqYB/LnYEhCjZAhDjZAhCpYAhDpYAiGhYAiHhYAiGgYAiHgYAiGpYAiHpYAiGjYAiHjYAg1HiYAh1HiYAiIhYAj",
  "IhYAiIgYAjIgYAiIpYAjIpYAiIjYAjIjYAg1HmYAh1HmYAlCjZAlDjZAlCpYAlDpYAlCjYAlDjYAqGhYAqHhYAqGgYAqH",
  "gYAqGpYAqHpYAqGjYAqHjYA41HiYA51HiYApCpYApDpYApCjZApDjZAvCjZAvDjZAvCpYAvDpYA0GhYA0HhYA0GgYA0Hg",
  "YA0GpYA0HpYA0GjYA0HjYAs2HiYAt2HiYAgNhYAhNhYAgNgYAhNgYAgNpYAhNpYAgNjYAhNjYAgNjZAhNjZA1CjZA1DjZ",
  "A1CpYA1DpYAvNhYAwNhYAvNgYAwNgYAvNpYAwNpYAvNjYAwNjYAvNjZAwNjZA5CgYA5DgYA5CjZA5DjZA5CpYA5DpYA5C",
  "jYA5DjYGxdzYAxd0YAg4HgYAh4HgYAg4HhYAh4HhYAg4HiaAh4HiaAxczYAxc0YAo4HgYAp4HgYAo4HhYAp4HhYAo4Hia",
  "Ap4HiaA1dzYA1d0YAw4HgYAx4HgYAw4HhYAx4HhYC1czYA1c0YA44HgYA54HgYA44HhYA54HhYC3dzYA3d0YAg5HgYAh5",
  "HgYAg5HhYAh5HhYAg5HiaAh5HiaA3czYA3c0YAo5HgYAp5HgYAo5HhYAp5HhYAo5HiaAp5HiaA5dzYA5d0YAw5HgYAx5H",
  "gYAw5HhYAx5HhYAw5HiaAx5HiaA5czYA5c0YA45HgYA55HgYA45HhYA55HhYA45HiaA55HiaA/dzYA/d0YAg6HgYAh6Hg",
  "YAg6HhYAh6HhYC/czYA/c0YAo6HgYAp6HgYAo6HhYAp6HhYClezYAle0YAw6HgYAx6HgYAw6HhYAx6HhYAw6HiaAx6Hia",
  "Bld0YB56HgYB56HhYB56HiaApezYApe0YAg7HgYAh7HgYAg7HhYAh7HhYAg7HiaAh7HiaApdzYApd0YAo7HgYAp7HgYAo",
  "7HhYAp7HhYAo7HiaAp7HiaAxdgYB1dgYB3dgYB5dgYB/dgYBlegYBpegYDg4HlaAh4HlaAi4HlaAj4HlaAk4HlaAl4Hla",
  "Am4HlaAn4HlaAo4HlaAp4HlaAq4HlaAr4HlaAs4HlaAt4HlaAu4HlaAv4HlaAg5HlaAh5HlaAi5HlaAj5HlaAk5HlaAl5",
  "HlaAm5HlaAn5HlaAo5HlaAp5HlaAq5HlaAr5HlaAs5HlaAt5HlaAu5HlaAv5HlaAg7HlaAh7HlaAi7HlaAj7HlaAk7Hla",
  "Al7HlaAm7HlaAn7HlaAo7HlaAp7HlaAq7HlaAr7HlaAs7HlaAt7HlaAu7HlaAv7HlaAxdmYAxdkYAw7HlaAxdlaAsdlaB",
  "xdiaA29HlaAxcmYAxckYAxcgYBxclaEoFiaA07HlaA3dlaAudlaB3diaAm+HlaA1cgYB3cgYB3claA/9HgYA/9HhYA/9H",
  "iaA5dmYA5dkYAqegYD5diaAqeiaA5cmYA5ckYA5cgYC+/HgYA+/HhYA+/HiaAlemYAlekYAregYBhezYAhe0YAleiaAre",
  "iaAldmYAldkYAldgYBhd0YAoFgYE87HlaApelaAuelaBpeiaA2/HlaA/cgYBpdgYBpdla9MwsI4ZAysI4ZS0sI4ZewuI4",
  "ZA0uI4ZAyuI4Z0BjwI4ZEowI4ZCrwI4ZXjxI4ZBlxI4Za8xI4ZCjyI4ZClyI4ZBoyI4ZW9B4ZBhzI4ZKtyI4ZA8B4ZA+B",
  "4ZAkzI4ZAlzI4ZCyzI4ZAzzI4ZC2zI4ZA3zI4ZG6zI4ZA7zI4ZCi0I4ZAj0I4ZCm0I4ZAn0I4ZiBi1I4ZAo1I4ZAp1I4Z",
  "Ar1I4ZwB8zI4ZA9zI4ZAx0I4ZAy0I4ZGy1I4ZAz1I4ZA01I4ZA11I4Z+qDriM5kMBtiM5kMBviM5kMBxiM5kMBziM5kMB",
  "1iM5kMB3iM5kMB5iM5kMB7iM5kMB9iM5kMB/iM5kMBhjM5kMCkjM5kMBmjM5kMBojM5kMGvjM5kMAvjM6kMByjM5kMAyj",
  "M6kMB1jM5kMA1jM6kMB4jM5kMA4jM6kMB7jM5kMA7jM6kMWmiM5kMJ9kM5kMNrlM5kMBtlM5kMBvlM5kMBxlM5kMBzlM5",
  "kMB1lM5kMB3lM5kMB5lM5kMB7lM5kMB9lM5kMB/lM5kMBhmM5kMCkmM5kMBmmM5kMBomM5kMGvmM5kMAvmM6kMBymM5kM",
  "AymM6kMB1mM5kMA1mM6kMB4mM5kMA4mM6kMB7mM5kMA7mM6kMWmlM5kMCvnM5kMAwnM5kMAxnM5kMAynM5kMD9nM5kMqm",
  "1ByuhCnYa6uhCnY11C5kkC6lkCB7kkC6lkCOllkC6lkCiExpkCnpkCAypkCnpkC7Qn6kC+5kCAn6kC36kC2Bi8kCp+kCB",
  "k8kC79kCIr8kCi+kCCw8kCp+kCzBi+kCi+kCBi+kC49kCAi+kCp+kCyH5llC6llCA5llCwllCB5llC9llC7H4tlCvtlCA",
  "5tlCvtlC8b1pmCwpmCo/R+o4C+o4CA+o4Cpp4CA+o4C/o4CApp4C/o4CA+o4Cgp4CAhp4C/o4CAip4C/o4CAhp4Cgp4C/",
  "hDnr7Cnr7CAjr7Cnr7CApr7Cnr7C"]

/-- The combining classes that are not zero. -/
def combiningClassTable : String := String.join [
  "gYUmHAAoHAD8GAAoHAA4GAE8GABqGAD8GABqGAK8GAEBAD8GAHmHAAwHAAmHAC8GACmHAB8GBCmHAD8GAAmHAAoHAB8GA",
  "AmHAApHABqHAApHABqHAApHAMmHzIEmHpIA8GADmHAA8GACmHAA+GAA8GAFmHAF8GABmHAA8GABmHAA+GAAkHAAmHAAKA",
  "ALAAMAANAAOAAPAAQAARAASABTAAUAAVAAWBAXBAYAAZBAmHAA8GBASoCHmHAAeAAfAAgBwBAbAAcAAdAAeAAfAAgBAAh",
  "BAAiBABmHAB8GAEmHAA8GABmHAA8GQAjBlDGmHCDmHAA8GAAmHCBmHBA8GABmHAA8GjBAkBeAmHAA8GABmHAA8GABmHAC",
  "8GAAmHAB8GAAmHAA8GACmHAA8GAAmHAA8GAAmHAA8GAAmHAA8GABmHgFGmHAA8GAAmHJA8GYDmHBImHBCmHBEmHrBC8G7",
  "BBmHAC8GADmHqBEmHAE8GANmHBA8GABmHAA8GABmHAA8GACmHAC8GAAbAAcAAdACmHAA8GABmHAB8GAEmH8BAHQAJDAmH",
  "AA8GABmHnDAHQAJwBAmH9BAHQAJuDAHQAJuDAHQAJ/DAJuDAHQAJHA0CAA7ClDAHQAJtDBJQAJ8DAJtDBnDAAJNDrDsDB",
  "2DAAJND6DsCB8GbA8GBA8GBA4G3BAhEAAiEBAkEFDiECAiEBBmHAAJBBmH+BA8GwDAHBBJyCA8GvWCmH0dBJeAJ9EAJKA",
  "mHrGAkHvEA+GAAmHAA8G7GAmHAA8GnCAJUHmHCA8GwBEmHAF8GABmHAA8GBB8GABmHAB8GAEmHAA8GARmHAA8GCFmHAA8",
  "GADmHAAqHoCAHPAJmBAmHAA8GAGmH2BBJ6BAHLBJjCAH4ECmHBABAE8GABmHAD8GAAmHBGBEA8GGAmHDBmHmGBmHAA8GA",
  "GmHAA8GABmHAAqHAA2GAA8GAAqGAkBmHAAoHABkHAA8GAA6GAAmHAApHAA8GAAmHAA8GwWBmHABBADmHACBABmHEAmHDB",
  "BAAmHAA8GAAmHABBAD8GAAmH+/CCmHtEAJgDfmHqRA6GAAkHAAoHAA+GABgHpDBI0udAmHEJmHgBBmHwCBmH0IAJlBAJ3",
  "EAJbRmH5BC8GlBAJ/CAHMAJvHAmHBBmHAA8GCBmHFBmHBAmH0BAJ2HAJw5TAahYGmHAG8GABmHteA8GiHA8G1EEmHy0BA",
  "8GBAmHoBAmHAABAA8GEAJlFAmHAA8G9RDmHhCEmH9JBmHtCB8GBC8GmCB8GACmHAA8GAAmHAD8GxBAmHAA8GAAmHAA8Gg",
  "GAJpBAJOAJ5BAJAAHlCCmHwBBJ+BAHsCAJJAHqDAJAAHyFAHAAJwCBHQAJYGmHDEmH5CCJxDAJDAHXAmHjDAJAAH7HAJA",
  "AH+DAJ2DAJAAHzDAJtIAJAAHiIBJEAH8EAJzCAJSAJxCAJlNAJiIAHBBJxCAJpNBJsvQAJguCEB7BGmH5lBBGslTABmmF",
  "B4GACBDAiHAE4GIH8GCEmHAB8GeDmH0ECmH7tDGmHBQmHCGmHBBmHBEmHkDAmHgFGmH3LAmH9BDmH8PBoHAA8GAAmH+HA",
  "mHAA8GzHAmHCAmHHBmHFAmH6OG8GtDFmHAAH"]

end ApiContract.Unicode
