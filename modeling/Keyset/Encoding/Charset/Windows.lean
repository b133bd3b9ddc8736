import Keyset.Encoding.Charset

/-!
# Keyset — the code pages 874 and 1250 to 1258

The code pages of graphical desktops: a national half above ASCII, with typographic marks
where ISO 8859 has control characters.

* `Charset.windows` — the charsets.
-/

namespace Keyset.Charset

/-- The charsets of this family. -/
def windows : List Charset :=
  [⟨"cp1250", ["1250", "windows_1250"],
      ["€\ufffe‚\ufffe„…†‡\ufffe‰Š‹ŚŤŽŹ\ufffe‘’“”•–—\ufffe™š›śťžź\xa0\u02c7\u02d8Ł¤Ą¦§\xa8©Ş«¬",
       "\xad®Ż°±\u02dbł\xb4µ¶·\xb8ąş»Ľ\u02ddľżŔÁÂĂÄĹĆÇČÉĘËĚÍÎĎĐŃŇÓÔŐÖ×ŘŮÚŰÜÝŢßŕáâăäĺćçčéęëěíîďđ",
       "ńňóôőö÷řůúűüýţ\u02d9"]⟩,
    ⟨"cp1251", ["1251", "windows_1251"],
      ["ЂЃ‚ѓ„…†‡€‰Љ‹ЊЌЋЏђ‘’“”•–—\ufffe™љ›њќћџ\xa0ЎўЈ¤Ґ¦§Ё©Є«¬\xad®Ї°±Ііґµ¶·ё№є»јЅѕїАБВГДЕЖЗИЙКЛ",
       "МНОПРСТУФХЦЧШЩЪЫЬЭЮЯабвгдежзийклмнопрстуфхцчшщъыьэюя"]⟩,
    ⟨"cp1252", ["1252", "windows_1252"],
      ["€\ufffe‚ƒ„…†‡\u02c6‰Š‹Œ\ufffeŽ\ufffe\ufffe‘’“”•–—\u02dc™š›œ\ufffežŸ\xa0¡¢£¤¥¦§\xa8©ª«¬",
       "\xad®\xaf°±²³\xb4µ¶·\xb8¹º»¼½¾¿ÀÁÂÃÄÅÆÇÈÉÊËÌÍÎÏÐÑÒÓÔÕÖ×ØÙÚÛÜÝÞßàáâãäåæçèéêëìíîïðñòóôõö÷",
       "øùúûüýþÿ"]⟩,
    ⟨"cp1253", ["1253", "windows_1253"],
      ["€\ufffe‚ƒ„…†‡\ufffe‰\ufffe‹\ufffe\ufffe\ufffe\ufffe\ufffe‘’“”•–—\ufffe™\ufffe›\ufffe",
       "\ufffe\ufffe\ufffe\xa0\u0385Ά£¤¥¦§\xa8©\ufffe«¬\xad®―°±²³\u0384µ¶·ΈΉΊ»Ό½ΎΏΐΑΒΓΔΕΖΗΘΙΚΛΜ",
       "ΝΞΟΠΡ\ufffeΣΤΥΦΧΨΩΪΫάέήίΰαβγδεζηθικλμνξοπρςστυφχψωϊϋόύώ\ufffe"]⟩,
    ⟨"cp1254", ["1254", "windows_1254"],
      ["€\ufffe‚ƒ„…†‡\u02c6‰Š‹Œ\ufffe\ufffe\ufffe\ufffe‘’“”•–—\u02dc™š›œ\ufffe\ufffeŸ\xa0¡¢£¤¥¦",
       "§\xa8©ª«¬\xad®\xaf°±²³\xb4µ¶·\xb8¹º»¼½¾¿ÀÁÂÃÄÅÆÇÈÉÊËÌÍÎÏĞÑÒÓÔÕÖ×ØÙÚÛÜİŞßàáâãäåæçèéêëìíî",
       "ïğñòóôõö÷øùúûüışÿ"]⟩,
    ⟨"cp1255", ["1255", "windows_1255"],
      ["€\ufffe‚ƒ„…†‡\u02c6‰\ufffe‹\ufffe\ufffe\ufffe\ufffe\ufffe‘’“”•–—\u02dc™\ufffe›\ufffe",
       "\ufffe\ufffe\ufffe\xa0¡¢£₪¥¦§\xa8©×«¬\xad®\xaf°±²³\xb4µ¶·\xb8¹÷»¼½¾¿\u05b0\u05b1\u05b2",
       "\u05b3\u05b4\u05b5\u05b6\u05b7\u05b8\u05b9\ufffe\u05bb\u05bc\u05bd\u05be\u05bf\u05c0",
       "\u05c1\u05c2\u05c3\u05f0\u05f1\u05f2\u05f3\u05f4\ufffe\ufffe\ufffe\ufffe\ufffe\ufffe",
       "\ufffe\u05d0\u05d1\u05d2\u05d3\u05d4\u05d5\u05d6\u05d7\u05d8\u05d9\u05da\u05db\u05dc",
       "\u05dd\u05de\u05df\u05e0\u05e1\u05e2\u05e3\u05e4\u05e5\u05e6\u05e7\u05e8\u05e9\u05ea",
       "\ufffe\ufffe\u200e\u200f\ufffe"]⟩,
    ⟨"cp1256", ["1256", "windows_1256"],
      ["€\u067e‚ƒ„…†‡\u02c6‰\u0679‹Œ\u0686\u0698\u0688\u06af‘’“”•–—\u06a9™\u0691›œ\u200c\u200d",
       "\u06ba\xa0،¢£¤¥¦§\xa8©\u06be«¬\xad®\xaf°±²³\xb4µ¶·\xb8¹\u061b»¼½¾\u061f\u06c1\u0621",
       "\u0622\u0623\u0624\u0625\u0626\u0627\u0628\u0629\u062a\u062b\u062c\u062d\u062e\u062f",
       "\u0630\u0631\u0632\u0633\u0634\u0635\u0636×\u0637\u0638\u0639\u063a\u0640\u0641\u0642",
       "\u0643à\u0644â\u0645\u0646\u0647\u0648çèéêë\u0649\u064aîï\u064b\u064c\u064d\u064eô",
       "\u064f\u0650÷\u0651ù\u0652ûü\u200e\u200f\u06d2"]⟩,
    ⟨"cp1257", ["1257", "windows_1257"],
      ["€\ufffe‚\ufffe„…†‡\ufffe‰\ufffe‹\ufffe\xa8\u02c7\xb8\ufffe‘’“”•–—\ufffe™\ufffe›\ufffe",
       "\xaf\u02db\ufffe\xa0\ufffe¢£¤\ufffe¦§Ø©Ŗ«¬\xad®Æ°±²³\xb4µ¶·ø¹ŗ»¼½¾æĄĮĀĆÄÅĘĒČÉŹĖĢĶĪĻŠŃŅÓ",
       "ŌÕÖ×ŲŁŚŪÜŻŽßąįāćäåęēčéźėģķīļšńņóōõö÷ųłśūüżž\u02d9"]⟩,
    ⟨"cp1258", ["1258", "windows_1258"],
      ["€\ufffe‚ƒ„…†‡\u02c6‰\ufffe‹Œ\ufffe\ufffe\ufffe\ufffe‘’“”•–—\u02dc™\ufffe›œ\ufffe\ufffeŸ",
       "\xa0¡¢£¤¥¦§\xa8©ª«¬\xad®\xaf°±²³\xb4µ¶·\xb8¹º»¼½¾¿ÀÁÂĂÄÅÆÇÈÉÊË\u0300ÍÎÏĐÑ\u0309ÓÔƠÖ×ØÙÚ",
       "ÛÜƯ\u0303ßàáâăäåæçèéêë\u0301íîïđñ\u0323óôơö÷øùúûüư₫ÿ"]⟩,
    ⟨"cp874", [],
      ["€\ufffe\ufffe\ufffe\ufffe…\ufffe\ufffe\ufffe\ufffe\ufffe\ufffe\ufffe\ufffe\ufffe\ufffe",
       "\ufffe‘’“”•–—\ufffe\ufffe\ufffe\ufffe\ufffe\ufffe\ufffe\ufffe\xa0กขฃคฅฆงจฉชซฌญฎฏฐฑฒณดตถ",
       "ทธนบปผฝพฟภมยรฤลฦวศษสหฬอฮฯะ\u0e31าำ\u0e34\u0e35\u0e36\u0e37\u0e38\u0e39\u0e3a\ufffe",
       "\ufffe\ufffe\ufffe฿เแโใไๅ\u0e46\u0e47\u0e48\u0e49\u0e4a\u0e4b\u0e4c\u0e4d\u0e4e๏๐๑๒๓๔๕๖",
       "๗๘๙๚๛\ufffe\ufffe\ufffe\ufffe"]⟩]

end Keyset.Charset
