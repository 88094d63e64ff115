import ODataExplorer.Charset.CodePage

/-!
The pages of desktop systems.
-/

namespace ODataExplorer.Charset

/-- The pages of desktop systems. -/
def desktopPages : List CodePage := [
  ⟨["cp1250", "1250", "windows_1250"],
    "€\ufffd\u201a\ufffd\u201e\u2026\u2020\u2021\ufffd\u2030Š\u2039ŚŤŽŹ\ufffd\u2018\u2019" ++
    "\u201c\u201d\u2022\u2013\u2014\ufffd™š\u203aśťžź\xa0ˇ˘Ł¤Ą¦§¨©Ş«¬\xad®Ż°±˛ł´µ¶·¸ąş»Ľ˝" ++
    "ľżŔÁÂĂÄĹĆÇČÉĘËĚÍÎĎĐŃŇÓÔŐÖ×ŘŮÚŰÜÝŢßŕáâăäĺćçčéęëěíîďđńňóôőö÷řůúűüýţ˙"⟩,
  ⟨["cp1251", "1251", "windows_1251"],
    "ЂЃ\u201aѓ\u201e\u2026\u2020\u2021€\u2030Љ\u2039ЊЌЋЏђ\u2018\u2019\u201c\u201d\u2022" ++
    "\u2013\u2014\ufffd™љ\u203aњќћџ\xa0ЎўЈ¤Ґ¦§Ё©Є«¬\xad®Ї°±Ііґµ¶·ё№є»јЅѕїАБВГДЕЖЗИЙКЛМНОП" ++
    "РСТУФХЦЧШЩЪЫЬЭЮЯабвгдежзийклмнопрстуфхцчшщъыьэюя"⟩,
  ⟨["cp1252", "1252", "windows_1252"],
    "€\ufffd\u201aƒ\u201e\u2026\u2020\u2021ˆ\u2030Š\u2039Œ\ufffdŽ\ufffd\ufffd\u2018\u2019" ++
    "\u201c\u201d\u2022\u2013\u2014˜™š\u203aœ\ufffdžŸ\xa0¡¢£¤¥¦§¨©ª«¬\xad®¯°±²³´µ¶·¸¹º»¼½" ++
    "¾¿ÀÁÂÃÄÅÆÇÈÉÊËÌÍÎÏÐÑÒÓÔÕÖ×ØÙÚÛÜÝÞßàáâãäåæçèéêëìíîïðñòóôõö÷øùúûüýþÿ"⟩,
  ⟨["cp1253", "1253", "windows_1253"],
    "€\ufffd\u201aƒ\u201e\u2026\u2020\u2021\ufffd\u2030\ufffd\u2039\ufffd\ufffd\ufffd" ++
    "\ufffd\ufffd\u2018\u2019\u201c\u201d\u2022\u2013\u2014\ufffd™\ufffd\u203a\ufffd" ++
    "\ufffd\ufffd\ufffd\xa0΅Ά£¤¥¦§¨©\ufffd«¬\xad®\u2015°±²³΄µ¶·ΈΉΊ»Ό½ΎΏΐΑΒΓΔΕΖΗΘΙΚΛΜΝΞΟΠΡ" ++
    "\ufffdΣΤΥΦΧΨΩΪΫάέήίΰαβγδεζηθικλμνξοπρςστυφχψωϊϋόύώ\ufffd"⟩,
  ⟨["cp1254", "1254", "windows_1254"],
    "€\ufffd\u201aƒ\u201e\u2026\u2020\u2021ˆ\u2030Š\u2039Œ\ufffd\ufffd\ufffd\ufffd\u2018" ++
    "\u2019\u201c\u201d\u2022\u2013\u2014˜™š\u203aœ\ufffd\ufffdŸ\xa0¡¢£¤¥¦§¨©ª«¬\xad®¯°±²" ++
    "³´µ¶·¸¹º»¼½¾¿ÀÁÂÃÄÅÆÇÈÉÊËÌÍÎÏĞÑÒÓÔÕÖ×ØÙÚÛÜİŞßàáâãäåæçèéêëìíîïğñòóôõö÷øùúûüışÿ"⟩,
  ⟨["cp1255", "1255", "windows_1255"],
    "€\ufffd\u201aƒ\u201e\u2026\u2020\u2021ˆ\u2030\ufffd\u2039\ufffd\ufffd\ufffd\ufffd" ++
    "\ufffd\u2018\u2019\u201c\u201d\u2022\u2013\u2014˜™\ufffd\u203a\ufffd\ufffd\ufffd" ++
    "\ufffd\xa0¡¢£₪¥¦§¨©×«¬\xad®¯°±²³´µ¶·¸¹÷»¼½¾¿\u05b0\u05b1\u05b2\u05b3\u05b4\u05b5" ++
    "\u05b6\u05b7\u05b8\u05b9\ufffd\u05bb\u05bc\u05bd\u05be\u05bf\u05c0\u05c1\u05c2\u05c3" ++
    "\u05f0\u05f1\u05f2\u05f3\u05f4\ufffd\ufffd\ufffd\ufffd\ufffd\ufffd\ufffd\u05d0\u05d1" ++
    "\u05d2\u05d3\u05d4\u05d5\u05d6\u05d7\u05d8\u05d9\u05da\u05db\u05dc\u05dd\u05de\u05df" ++
    "\u05e0\u05e1\u05e2\u05e3\u05e4\u05e5\u05e6\u05e7\u05e8\u05e9\u05ea\ufffd\ufffd\u200e" ++
    "\u200f\ufffd"⟩,
  ⟨["cp1256", "1256", "windows_1256"],
    "€\u067e\u201aƒ\u201e\u2026\u2020\u2021ˆ\u2030\u0679\u2039Œ\u0686\u0698\u0688\u06af" ++
    "\u2018\u2019\u201c\u201d\u2022\u2013\u2014\u06a9™\u0691\u203aœ\u200c\u200d\u06ba\xa0" ++
    "،¢£¤¥¦§¨©\u06be«¬\xad®¯°±²³´µ¶·¸¹\u061b»¼½¾\u061f\u06c1\u0621\u0622\u0623\u0624" ++
    "\u0625\u0626\u0627\u0628\u0629\u062a\u062b\u062c\u062d\u062e\u062f\u0630\u0631\u0632" ++
    "\u0633\u0634\u0635\u0636×\u0637\u0638\u0639\u063a\u0640\u0641\u0642\u0643à\u0644â" ++
    "\u0645\u0646\u0647\u0648çèéêë\u0649\u064aîï\u064b\u064c\u064d\u064eô\u064f\u0650÷" ++
    "\u0651ù\u0652ûü\u200e\u200f\u06d2"⟩,
  ⟨["cp1257", "1257", "windows_1257"],
    "€\ufffd\u201a\ufffd\u201e\u2026\u2020\u2021\ufffd\u2030\ufffd\u2039\ufffd¨ˇ¸\ufffd" ++
    "\u2018\u2019\u201c\u201d\u2022\u2013\u2014\ufffd™\ufffd\u203a\ufffd¯˛\ufffd\xa0" ++
    "\ufffd¢£¤\ufffd¦§Ø©Ŗ«¬\xad®Æ°±²³´µ¶·ø¹ŗ»¼½¾æĄĮĀĆÄÅĘĒČÉŹĖĢĶĪĻŠŃŅÓŌÕÖ×ŲŁŚŪÜŻŽßąįāćäåęē" ++
    "čéźėģķīļšńņóōõö÷ųłśūüżž˙"⟩,
  ⟨["cp1258", "1258", "windows_1258"],
    "€\ufffd\u201aƒ\u201e\u2026\u2020\u2021ˆ\u2030\ufffd\u2039Œ\ufffd\ufffd\ufffd\ufffd" ++
    "\u2018\u2019\u201c\u201d\u2022\u2013\u2014˜™\ufffd\u203aœ\ufffd\ufffdŸ\xa0¡¢£¤¥¦§¨©ª" ++
    "«¬\xad®¯°±²³´µ¶·¸¹º»¼½¾¿ÀÁÂĂÄÅÆÇÈÉÊË\u0300ÍÎÏĐÑ\u0309ÓÔƠÖ×ØÙÚÛÜƯ\u0303ßàáâăäåæçèéêë" ++
    "\u0301íîïđñ\u0323óôơö÷øùúûüư₫ÿ"⟩,
  ⟨["cp874"],
    "€\ufffd\ufffd\ufffd\ufffd\u2026\ufffd\ufffd\ufffd\ufffd\ufffd\ufffd\ufffd\ufffd" ++
    "\ufffd\ufffd\ufffd\u2018\u2019\u201c\u201d\u2022\u2013\u2014\ufffd\ufffd\ufffd\ufffd" ++
    "\ufffd\ufffd\ufffd\ufffd\xa0\u0e01\u0e02\u0e03\u0e04\u0e05\u0e06\u0e07\u0e08\u0e09" ++
    "\u0e0a\u0e0b\u0e0c\u0e0d\u0e0e\u0e0f\u0e10\u0e11\u0e12\u0e13\u0e14\u0e15\u0e16\u0e17" ++
    "\u0e18\u0e19\u0e1a\u0e1b\u0e1c\u0e1d\u0e1e\u0e1f\u0e20\u0e21\u0e22\u0e23\u0e24\u0e25" ++
    "\u0e26\u0e27\u0e28\u0e29\u0e2a\u0e2b\u0e2c\u0e2d\u0e2e\u0e2f\u0e30\u0e31\u0e32\u0e33" ++
    "\u0e34\u0e35\u0e36\u0e37\u0e38\u0e39\u0e3a\ufffd\ufffd\ufffd\ufffd\u0e3f\u0e40\u0e41" ++
    "\u0e42\u0e43\u0e44\u0e45\u0e46\u0e47\u0e48\u0e49\u0e4a\u0e4b\u0e4c\u0e4d\u0e4e\u0e4f" ++
    "\u0e50\u0e51\u0e52\u0e53\u0e54\u0e55\u0e56\u0e57\u0e58\u0e59\u0e5a\u0e5b\ufffd\ufffd" ++
    "\ufffd\ufffd"⟩,
  ⟨["mac_arabic"],
    "Ä\xa0ÇÉÑÖÜáàâä\u06ba«çéèêëí\u2026îïñó»ôö÷úùûü !\"#$٪&'()*+،-./\u0660\u0661\u0662" ++
    "\u0663\u0664\u0665\u0666\u0667\u0668\u0669:\u061b<=>\u061f❊\u0621\u0622\u0623\u0624" ++
    "\u0625\u0626\u0627\u0628\u0629\u062a\u062b\u062c\u062d\u062e\u062f\u0630\u0631\u0632" ++
    "\u0633\u0634\u0635\u0636\u0637\u0638\u0639\u063a[\\]^_\u0640\u0641\u0642\u0643\u0644" ++
    "\u0645\u0646\u0647\u0648\u0649\u064a\u064b\u064c\u064d\u064e\u064f\u0650\u0651\u0652" ++
    "\u067e\u0679\u0686\u06d5\u06a4\u06af\u0688\u0691\x7b|\x7d\u0698\u06d2"⟩,
  ⟨["mac_croatian"],
    "ÄÅÇÉÑÖÜáàâäãåçéèêëíìîïñóòôöõúùûü\u2020°¢£§\u2022¶ß®Š™´¨≠ŽØ∞±≤≥∆µ∂∑∏š∫ªºΩžø¿¡¬√ƒ≈Ć«Č" ++
    "\u2026\xa0ÀÃÕŒœĐ\u2014\u201c\u201d\u2018\u2019÷◊\uf8ff©\u2044€\u2039\u203aÆ»\u2013·" ++
    "\u201a\u201e\u2030ÂćÁčÈÍÎÏÌÓÔđÒÚÛÙıˆ˜¯πË˚¸Êæˇ"⟩,
  ⟨["mac_cyrillic", "maccyrillic"],
    "АБВГДЕЖЗИЙКЛМНОПРСТУФХЦЧШЩЪЫЬЭЮЯ\u2020°Ґ£§\u2022¶І®©™Ђђ≠Ѓѓ∞±≤≥іµґЈЄєЇїЉљЊњјЅ¬√ƒ≈∆«»" ++
    "\u2026\xa0ЋћЌќѕ\u2013\u2014\u201c\u201d\u2018\u2019÷\u201eЎўЏџ№Ёёяабвгдежзийклмнопрс" ++
    "туфхцчшщъыьэю€"⟩,
  ⟨["mac_farsi"],
    "Ä\xa0ÇÉÑÖÜáàâä\u06ba«çéèêëí\u2026îïñó»ôö÷úùûü !\"#$٪&'()*+،-./۰۱۲۳۴۵۶۷۸۹:\u061b<=>" ++
    "\u061f❊\u0621\u0622\u0623\u0624\u0625\u0626\u0627\u0628\u0629\u062a\u062b\u062c" ++
    "\u062d\u062e\u062f\u0630\u0631\u0632\u0633\u0634\u0635\u0636\u0637\u0638\u0639\u063a" ++
    "[\\]^_\u0640\u0641\u0642\u0643\u0644\u0645\u0646\u0647\u0648\u0649\u064a\u064b\u064c" ++
    "\u064d\u064e\u064f\u0650\u0651\u0652\u067e\u0679\u0686\u06d5\u06a4\u06af\u0688\u0691" ++
    "\x7b|\x7d\u0698\u06d2"⟩,
  ⟨["mac_greek", "macgreek"],
    "Ä¹²É³ÖÜ΅àâä΄¨çéèêë£™îï\u2022½\u2030ôö¦€ùûü\u2020ΓΔΘΛΞΠß®©ΣΪ§≠°·Α±≤≥¥ΒΕΖΗΙΚΜΦΫΨΩάΝ¬ΟΡ" ++
    "≈Τ«»\u2026\xa0ΥΧΆΈœ\u2013\u2015\u201c\u201d\u2018\u2019÷ΉΊΌΎέήίόΏύαβψδεφγηιξκλμνοπώρ" ++
    "στθωςχυζϊϋΐΰ\xad"⟩,
  ⟨["mac_iceland", "maciceland"],
    "ÄÅÇÉÑÖÜáàâäãåçéèêëíìîïñóòôöõúùûüÝ°¢£§\u2022¶ß®©™´¨≠ÆØ∞±≤≥¥µ∂∑∏π∫ªºΩæø¿¡¬√ƒ≈∆«»\u2026" ++
    "\xa0ÀÃÕŒœ\u2013\u2014\u201c\u201d\u2018\u2019÷◊ÿŸ\u2044€ÐðÞþý·\u201a\u201e\u2030ÂÊÁË" ++
    "ÈÍÎÏÌÓÔ\uf8ffÒÚÛÙıˆ˜¯˘˙˚¸˝˛ˇ"⟩,
  ⟨["mac_latin2", "mac_centeuro", "maccentraleurope", "maclatin2"],
    "ÄĀāÉĄÖÜáąČäčĆćéŹźĎíďĒēĖóėôöõúĚěü\u2020°Ę£§\u2022¶ß®©™ę¨≠ģĮįĪ≤≥īĶ∂∑łĻļĽľĹĺŅņŃ¬√ńŇ∆«»" ++
    "\u2026\xa0ňŐÕőŌ\u2013\u2014\u201c\u201d\u2018\u2019÷◊ōŔŕŘ\u2039\u203ařŖŗŠ\u201a" ++
    "\u201ešŚśÁŤťÍŽžŪÓÔūŮÚůŰűŲųÝýķŻŁżĢˇ"⟩,
  ⟨["mac_roman", "macintosh", "macroman"],
    "ÄÅÇÉÑÖÜáàâäãåçéèêëíìîïñóòôöõúùûü\u2020°¢£§\u2022¶ß®©™´¨≠ÆØ∞±≤≥¥µ∂∑∏π∫ªºΩæø¿¡¬√ƒ≈∆«»" ++
    "\u2026\xa0ÀÃÕŒœ\u2013\u2014\u201c\u201d\u2018\u2019÷◊ÿŸ\u2044€\u2039\u203a\ufb01" ++
    "\ufb02\u2021·\u201a\u201e\u2030ÂÊÁËÈÍÎÏÌÓÔ\uf8ffÒÚÛÙıˆ˜¯˘˙˚¸˝˛ˇ"⟩,
  ⟨["mac_romanian"],
    "ÄÅÇÉÑÖÜáàâäãåçéèêëíìîïñóòôöõúùûü\u2020°¢£§\u2022¶ß®©™´¨≠ĂȘ∞±≤≥¥µ∂∑∏π∫ªºΩăș¿¡¬√ƒ≈∆«»" ++
    "\u2026\xa0ÀÃÕŒœ\u2013\u2014\u201c\u201d\u2018\u2019÷◊ÿŸ\u2044€\u2039\u203aȚț\u2021·" ++
    "\u201a\u201e\u2030ÂÊÁËÈÍÎÏÌÓÔ\uf8ffÒÚÛÙıˆ˜¯˘˙˚¸˝˛ˇ"⟩,
  ⟨["mac_turkish", "macturkish"],
    "ÄÅÇÉÑÖÜáàâäãåçéèêëíìîïñóòôöõúùûü\u2020°¢£§\u2022¶ß®©™´¨≠ÆØ∞±≤≥¥µ∂∑∏π∫ªºΩæø¿¡¬√ƒ≈∆«»" ++
    "\u2026\xa0ÀÃÕŒœ\u2013\u2014\u201c\u201d\u2018\u2019÷◊ÿŸĞğİıŞş\u2021·\u201a\u201e" ++
    "\u2030ÂÊÁËÈÍÎÏÌÓÔ\uf8ffÒÚÛÙ\uf8a0ˆ˜¯˘˙˚¸˝˛ˇ"⟩,
  ⟨["palmos"],
    "€\x81\u201aƒ\u201e\u2026\u2020\u2021ˆ\u2030Š\u2039Œ♦♣♥♠\u2018\u2019\u201c\u201d" ++
    "\u2022\u2013\u2014˜™š\x9bœ\x9d\x9eŸ\xa0¡¢£¤¥¦§¨©ª«¬\xad®¯°±²³´µ¶·¸¹º»¼½¾¿ÀÁÂÃÄÅÆÇÈÉÊ" ++
    "ËÌÍÎÏÐÑÒÓÔÕÖ×ØÙÚÛÜÝÞßàáâãäåæçèéêëìíîïðñòóôõö÷øùúûüýþÿ"⟩]

end ODataExplorer.Charset
