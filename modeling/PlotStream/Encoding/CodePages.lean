import PlotStream.Encoding.Coding

/-!
Code pages with the names they are known by. A page has a byte for every character. Its first bytes
are numbered like Unicode, mostly those of ASCII, and a table has the characters of the others.
-/

namespace PlotStream.Encoding

structure CodePage where
  /-- The proper name. -/
  name : String
  /-- Other names. -/
  others : List String := []
  /-- The first byte in the table. -/
  start : Nat := 0x80
  /-- The characters from that byte on, with a null character for each byte that has none. -/
  rows : List String

def CodePage.codec (page : CodePage) : Codec :=
  .codePage (page.rows.flatMap fun row => row.toList.map Char.toNat) page.start

/-- The parts of ISO 8859 besides the first, and the standard for Thai. -/
def isoPages : List CodePage :=
  [ { name := "iso8859_2",
      others := ["csisolatin2", "iso_8859_2", "iso_8859_2_1987", "iso_ir_101", "l2", "latin2"],
      start := 0xA1,
      rows :=
        [ "Ą˘Ł¤ĽŚ§¨ŠŞŤŹ\xadŽŻ°ą˛ł´ľśˇ¸šşťź˝žżŔÁÂĂÄĹĆÇČÉĘËĚÍÎĎĐŃŇÓÔŐÖ×ŘŮÚŰÜÝŢßŕáâăäĺćçčéęëěíîďđ",
          "ńňóôőö÷řůúűüýţ˙" ] },
    { name := "iso8859_3",
      others := ["csisolatin3", "iso_8859_3", "iso_8859_3_1988", "iso_ir_109", "l3", "latin3"],
      start := 0xA1,
      rows :=
        [ "Ħ˘£¤\x00Ĥ§¨İŞĞĴ\xad\x00Ż°ħ²³´µĥ·¸ışğĵ½\x00żÀÁÂ\x00ÄĊĈÇÈÉÊËÌÍÎÏ\x00ÑÒÓÔĠÖ×ĜÙÚÛÜŬŜßàá",
          "â\x00äċĉçèéêëìíîï\x00ñòóôġö÷ĝùúûüŭŝ˙" ] },
    { name := "iso8859_4",
      others := ["csisolatin4", "iso_8859_4", "iso_8859_4_1988", "iso_ir_110", "l4", "latin4"],
      start := 0xA1,
      rows :=
        [ "ĄĸŖ¤ĨĻ§¨ŠĒĢŦ\xadŽ¯°ą˛ŗ´ĩļˇ¸šēģŧŊžŋĀÁÂÃÄÅÆĮČÉĘËĖÍÎĪĐŅŌĶÔÕÖ×ØŲÚÛÜŨŪßāáâãäåæįčéęëėíîīđ",
          "ņōķôõö÷øųúûüũū˙" ] },
    { name := "iso8859_5",
      others := ["csisolatincyrillic", "cyrillic", "iso_8859_5", "iso_8859_5_1988", "iso_ir_144"],
      start := 0xA1,
      rows :=
        [ "ЁЂЃЄЅІЇЈЉЊЋЌ\xadЎЏАБВГДЕЖЗИЙКЛМНОПРСТУФХЦЧШЩЪЫЬЭЮЯабвгдежзийклмнопрстуфхцчшщъыьэюя№",
          "ёђѓєѕіїјљњћќ§ўџ" ] },
    { name := "iso8859_6",
      others := ["arabic", "asmo_708", "csisolatinarabic", "ecma_114", "iso_8859_6",
        "iso_8859_6_1987", "iso_ir_127"],
      start := 0xA1,
      rows :=
        [ "\x00\x00\x00¤\x00\x00\x00\x00\x00\x00\x00\u060C\xad\x00\x00\x00\x00\x00\x00\x00\x00",
          "\x00\x00\x00\x00\x00\u061B\x00\x00\x00\u061F\x00\u0621\u0622\u0623\u0624\u0625",
          "\u0626\u0627\u0628\u0629\u062A\u062B\u062C\u062D\u062E\u062F\u0630\u0631\u0632",
          "\u0633\u0634\u0635\u0636\u0637\u0638\u0639\u063A\x00\x00\x00\x00\x00\u0640\u0641",
          "\u0642\u0643\u0644\u0645\u0646\u0647\u0648\u0649\u064A\u064B\u064C\u064D\u064E",
          "\u064F\u0650\u0651\u0652\x00\x00\x00\x00\x00\x00\x00\x00\x00\x00\x00\x00\x00" ] },
    { name := "iso8859_7",
      others := ["csisolatingreek", "ecma_118", "elot_928", "greek", "greek8", "iso_8859_7",
        "iso_8859_7_1987", "iso_ir_126"],
      start := 0xA1,
      rows :=
        [ "‘’£€₯¦§¨©ͺ«¬\xad\x00―°±²³΄΅Ά·ΈΉΊ»Ό½ΎΏΐΑΒΓΔΕΖΗΘΙΚΛΜΝΞΟΠΡ\x00ΣΤΥΦΧΨΩΪΫάέήίΰαβγδεζηθικ",
          "λμνξοπρςστυφχψωϊϋόύώ\x00" ] },
    { name := "iso8859_8",
      others := ["csisolatinhebrew", "hebrew", "iso_8859_8", "iso_8859_8_1988", "iso_ir_138"],
      start := 0xA1,
      rows :=
        [ "\x00¢£¤¥¦§¨©×«¬\xad®¯°±²³´µ¶·¸¹÷»¼½¾\x00\x00\x00\x00\x00\x00\x00\x00\x00\x00\x00",
          "\x00\x00\x00\x00\x00\x00\x00\x00\x00\x00\x00\x00\x00\x00\x00\x00\x00\x00\x00\x00",
          "\x00‗\u05D0\u05D1\u05D2\u05D3\u05D4\u05D5\u05D6\u05D7\u05D8\u05D9\u05DA\u05DB\u05DC",
          "\u05DD\u05DE\u05DF\u05E0\u05E1\u05E2\u05E3\u05E4\u05E5\u05E6\u05E7\u05E8\u05E9",
          "\u05EA\x00\x00\u200E\u200F\x00" ] },
    { name := "iso8859_9",
      others := ["csisolatin5", "iso_8859_9", "iso_8859_9_1989", "iso_ir_148", "l5", "latin5"],
      start := 0xD0,
      rows :=
        [ "ĞÑÒÓÔÕÖ×ØÙÚÛÜİŞßàáâãäåæçèéêëìíîïğñòóôõö÷øùúûüış" ] },
    { name := "iso8859_10",
      others := ["csisolatin6", "iso_8859_10", "iso_8859_10_1992", "iso_ir_157", "l6", "latin6"],
      start := 0xA1,
      rows :=
        [ "ĄĒĢĪĨĶ§ĻĐŠŦŽ\xadŪŊ°ąēģīĩķ·ļđšŧž―ūŋĀÁÂÃÄÅÆĮČÉĘËĖÍÎÏÐŅŌÓÔÕÖŨØŲÚÛÜÝÞßāáâãäåæįčéęëėíîïð",
          "ņōóôõöũøųúûüýþĸ" ] },
    { name := "iso8859_11",
      others := ["iso_8859_11", "iso_8859_11_2001", "thai"],
      start := 0xA1,
      rows :=
        [ "กขฃคฅฆงจฉชซฌญฎฏฐฑฒณดตถทธนบปผฝพฟภมยรฤลฦวศษสหฬอฮฯะ\u0E31าำ\u0E34\u0E35\u0E36\u0E37",
          "\u0E38\u0E39\u0E3A\x00\x00\x00\x00฿เแโใไๅๆ\u0E47\u0E48\u0E49\u0E4A\u0E4B\u0E4C",
          "\u0E4D\u0E4E๏๐๑๒๓๔๕๖๗๘๙๚๛\x00\x00\x00\x00" ] },
    { name := "iso8859_13",
      others := ["iso_8859_13", "l7", "latin7"],
      start := 0xA1,
      rows :=
        [ "”¢£¤„¦§Ø©Ŗ«¬\xad®Æ°±²³“µ¶·ø¹ŗ»¼½¾æĄĮĀĆÄÅĘĒČÉŹĖĢĶĪĻŠŃŅÓŌÕÖ×ŲŁŚŪÜŻŽßąįāćäåęēčéźėģķīļš",
          "ńņóōõö÷ųłśūüżž’" ] },
    { name := "iso8859_14",
      others := ["iso_8859_14", "iso_8859_14_1998", "iso_celtic", "iso_ir_199", "l8", "latin8"],
      start := 0xA1,
      rows :=
        [ "Ḃḃ£ĊċḊ§Ẁ©ẂḋỲ\xad®ŸḞḟĠġṀṁ¶ṖẁṗẃṠỳẄẅṡÀÁÂÃÄÅÆÇÈÉÊËÌÍÎÏŴÑÒÓÔÕÖṪØÙÚÛÜÝŶßàáâãäåæçèéêëìíîïŵ",
          "ñòóôõöṫøùúûüýŷ" ] },
    { name := "iso8859_15",
      others := ["iso_8859_15", "l9", "latin9"],
      start := 0xA4,
      rows :=
        [ "€¥Š§š©ª«¬\xad®¯°±²³Žµ¶·ž¹º»ŒœŸ" ] },
    { name := "iso8859_16",
      others := ["iso_8859_16", "iso_8859_16_2001", "iso_ir_226", "l10", "latin10"],
      start := 0xA1,
      rows :=
        [ "ĄąŁ€„Š§š©Ș«Ź\xadźŻ°±ČłŽ”¶·žčș»ŒœŸżÀÁÂĂÄĆÆÇÈÉÊËÌÍÎÏĐŃÒÓÔŐÖŚŰÙÚÛÜĘȚßàáâăäćæçèéêëìíîïđ",
          "ńòóôőöśűùúûüęț" ] },
    { name := "tis_620",
      others := ["iso_ir_166", "tis620", "tis_620_0", "tis_620_2529_0", "tis_620_2529_1"],
      start := 0xA0,
      rows :=
        [ "\x00กขฃคฅฆงจฉชซฌญฎฏฐฑฒณดตถทธนบปผฝพฟภมยรฤลฦวศษสหฬอฮฯะ\u0E31าำ\u0E34\u0E35\u0E36",
          "\u0E37\u0E38\u0E39\u0E3A\x00\x00\x00\x00฿เแโใไๅๆ\u0E47\u0E48\u0E49\u0E4A\u0E4B",
          "\u0E4C\u0E4D\u0E4E๏๐๑๒๓๔๕๖๗๘๙๚๛\x00\x00\x00\x00" ] } ]

/-- The code pages of Windows besides 1252. -/
def windowsPages : List CodePage :=
  [ { name := "cp874",
      rows :=
        [ "€\x00\x00\x00\x00…\x00\x00\x00\x00\x00\x00\x00\x00\x00\x00\x00‘’“”•–—\x00\x00\x00",
          "\x00\x00\x00\x00\x00\xa0กขฃคฅฆงจฉชซฌญฎฏฐฑฒณดตถทธนบปผฝพฟภมยรฤลฦวศษสหฬอฮฯะ\u0E31าำ",
          "\u0E34\u0E35\u0E36\u0E37\u0E38\u0E39\u0E3A\x00\x00\x00\x00฿เแโใไๅๆ\u0E47\u0E48",
          "\u0E49\u0E4A\u0E4B\u0E4C\u0E4D\u0E4E๏๐๑๒๓๔๕๖๗๘๙๚๛\x00\x00\x00\x00" ] },
    { name := "cp1250",
      others := ["1250", "windows_1250"],
      rows :=
        [ "€\x00‚\x00„…†‡\x00‰Š‹ŚŤŽŹ\x00‘’“”•–—\x00™š›śťžź\xa0ˇ˘Ł¤Ą¦§¨©Ş«¬\xad®Ż°±˛ł´µ¶·¸ąş»Ľ˝",
          "ľżŔÁÂĂÄĹĆÇČÉĘËĚÍÎĎĐŃŇÓÔŐÖ×ŘŮÚŰÜÝŢßŕáâăäĺćçčéęëěíîďđńňóôőö÷řůúűüýţ˙" ] },
    { name := "cp1251",
      others := ["1251", "windows_1251"],
      rows :=
        [ "ЂЃ‚ѓ„…†‡€‰Љ‹ЊЌЋЏђ‘’“”•–—\x00™љ›њќћџ\xa0ЎўЈ¤Ґ¦§Ё©Є«¬\xad®Ї°±Ііґµ¶·ё№є»јЅѕїАБВГДЕЖЗИЙ",
          "КЛМНОПРСТУФХЦЧШЩЪЫЬЭЮЯабвгдежзийклмнопрстуфхцчшщъыьэюя" ] },
    { name := "cp1253",
      others := ["1253", "windows_1253"],
      rows :=
        [ "€\x00‚ƒ„…†‡\x00‰\x00‹\x00\x00\x00\x00\x00‘’“”•–—\x00™\x00›\x00\x00\x00\x00\xa0΅Ά£¤¥",
          "¦§¨©\x00«¬\xad®―°±²³΄µ¶·ΈΉΊ»Ό½ΎΏΐΑΒΓΔΕΖΗΘΙΚΛΜΝΞΟΠΡ\x00ΣΤΥΦΧΨΩΪΫάέήίΰαβγδεζηθικλμνξο",
          "πρςστυφχψωϊϋόύώ\x00" ] },
    { name := "cp1254",
      others := ["1254", "windows_1254"],
      rows :=
        [ "€\x00‚ƒ„…†‡ˆ‰Š‹Œ\x00\x00\x00\x00‘’“”•–—˜™š›œ\x00\x00Ÿ\xa0¡¢£¤¥¦§¨©ª«¬\xad®¯°±²³´µ¶·",
          "¸¹º»¼½¾¿ÀÁÂÃÄÅÆÇÈÉÊËÌÍÎÏĞÑÒÓÔÕÖ×ØÙÚÛÜİŞßàáâãäåæçèéêëìíîïğñòóôõö÷øùúûüış" ] },
    { name := "cp1255",
      others := ["1255", "windows_1255"],
      rows :=
        [ "€\x00‚ƒ„…†‡ˆ‰\x00‹\x00\x00\x00\x00\x00‘’“”•–—˜™\x00›\x00\x00\x00\x00\xa0¡¢£₪¥¦§¨©×«",
          "¬\xad®¯°±²³´µ¶·¸¹÷»¼½¾¿\u05B0\u05B1\u05B2\u05B3\u05B4\u05B5\u05B6\u05B7\u05B8\u05B9",
          "\x00\u05BB\u05BC\u05BD\u05BE\u05BF\u05C0\u05C1\u05C2\u05C3\u05F0\u05F1\u05F2\u05F3",
          "\u05F4\x00\x00\x00\x00\x00\x00\x00\u05D0\u05D1\u05D2\u05D3\u05D4\u05D5\u05D6\u05D7",
          "\u05D8\u05D9\u05DA\u05DB\u05DC\u05DD\u05DE\u05DF\u05E0\u05E1\u05E2\u05E3\u05E4",
          "\u05E5\u05E6\u05E7\u05E8\u05E9\u05EA\x00\x00\u200E\u200F\x00" ] },
    { name := "cp1256",
      others := ["1256", "windows_1256"],
      rows :=
        [ "€\u067E‚ƒ„…†‡ˆ‰\u0679‹Œ\u0686\u0698\u0688\u06AF‘’“”•–—\u06A9™\u0691›œ\u200C\u200D",
          "\u06BA\xa0\u060C¢£¤¥¦§¨©\u06BE«¬\xad®¯°±²³´µ¶·¸¹\u061B»¼½¾\u061F\u06C1\u0621\u0622",
          "\u0623\u0624\u0625\u0626\u0627\u0628\u0629\u062A\u062B\u062C\u062D\u062E\u062F",
          "\u0630\u0631\u0632\u0633\u0634\u0635\u0636×\u0637\u0638\u0639\u063A\u0640\u0641",
          "\u0642\u0643à\u0644â\u0645\u0646\u0647\u0648çèéêë\u0649\u064Aîï\u064B\u064C\u064D",
          "\u064Eô\u064F\u0650÷\u0651ù\u0652ûü\u200E\u200F\u06D2" ] },
    { name := "cp1257",
      others := ["1257", "windows_1257"],
      rows :=
        [ "€\x00‚\x00„…†‡\x00‰\x00‹\x00¨ˇ¸\x00‘’“”•–—\x00™\x00›\x00¯˛\x00\xa0\x00¢£¤\x00¦§Ø©Ŗ«",
          "¬\xad®Æ°±²³´µ¶·ø¹ŗ»¼½¾æĄĮĀĆÄÅĘĒČÉŹĖĢĶĪĻŠŃŅÓŌÕÖ×ŲŁŚŪÜŻŽßąįāćäåęēčéźėģķīļšńņóōõö÷ųłśū",
          "üżž˙" ] },
    { name := "cp1258",
      others := ["1258", "windows_1258"],
      rows :=
        [ "€\x00‚ƒ„…†‡ˆ‰\x00‹Œ\x00\x00\x00\x00‘’“”•–—˜™\x00›œ\x00\x00Ÿ\xa0¡¢£¤¥¦§¨©ª«¬\xad®¯°±",
          "²³´µ¶·¸¹º»¼½¾¿ÀÁÂĂÄÅÆÇÈÉÊË\u0300ÍÎÏĐÑ\u0309ÓÔƠÖ×ØÙÚÛÜƯ\u0303ßàáâăäåæçèéêë\u0301íîïđ",
          "ñ\u0323óôơö÷øùúûüư₫" ] } ]

/-- The code pages of DOS besides 850. -/
def dosPages : List CodePage :=
  [ { name := "cp437",
      others := ["437", "cspc8codepage437", "ibm437"],
      rows :=
        [ "ÇüéâäàåçêëèïîìÄÅÉæÆôöòûùÿÖÜ¢£¥₧ƒáíóúñÑªº¿⌐¬½¼¡«»░▒▓│┤╡╢╖╕╣║╗╝╜╛┐└┴┬├─┼╞╟╚╔╩╦╠═╬╧╨╤╥",
          "╙╘╒╓╫╪┘┌█▄▌▐▀αßΓπΣσµτΦΘΩδ∞φε∩≡±≥≤⌠⌡÷≈°∙·√ⁿ²■\xa0" ] },
    { name := "cp720",
      start := 0x82,
      rows :=
        [ "éâ\x84à\x86çêëèïî\x8d\x8e\x8f\x90\u0651\u0652ô¤\u0640ûù\u0621\u0622\u0623\u0624£",
          "\u0625\u0626\u0627\u0628\u0629\u062A\u062B\u062C\u062D\u062E\u062F\u0630\u0631",
          "\u0632\u0633\u0634\u0635«»░▒▓│┤╡╢╖╕╣║╗╝╜╛┐└┴┬├─┼╞╟╚╔╩╦╠═╬╧╨╤╥╙╘╒╓╫╪┘┌█▄▌▐▀\u0636",
          "\u0637\u0638\u0639\u063A\u0641µ\u0642\u0643\u0644\u0645\u0646\u0647\u0648\u0649",
          "\u064A≡\u064B\u064C\u064D\u064E\u064F\u0650≈°∙·√ⁿ²■\xa0" ] },
    { name := "cp737",
      rows :=
        [ "ΑΒΓΔΕΖΗΘΙΚΛΜΝΞΟΠΡΣΤΥΦΧΨΩαβγδεζηθικλμνξοπρσςτυφχψ░▒▓│┤╡╢╖╕╣║╗╝╜╛┐└┴┬├─┼╞╟╚╔╩╦╠═╬╧╨╤╥",
          "╙╘╒╓╫╪┘┌█▄▌▐▀ωάέήϊίόύϋώΆΈΉΊΌΎΏ±≥≤ΪΫ÷≈°∙·√ⁿ²■\xa0" ] },
    { name := "cp775",
      others := ["775", "cspc775baltic", "ibm775"],
      rows :=
        [ "ĆüéāäģåćłēŖŗīŹÄÅÉæÆōöĢ¢ŚśÖÜø£Ø×¤ĀĪóŻżź”¦©®¬½¼Ł«»░▒▓│┤ĄČĘĖ╣║╗╝ĮŠ┐└┴┬├─┼ŲŪ╚╔╩╦╠═╬Žąčę",
          "ėįšųūž┘┌█▄▌▐▀ÓßŌŃõÕµńĶķĻļņĒŅ’\xad±“¾¶§÷„°∙·¹³²■\xa0" ] },
    { name := "cp852",
      others := ["852", "cspcp852", "ibm852"],
      rows :=
        [ "ÇüéâäůćçłëŐőîŹÄĆÉĹĺôöĽľŚśÖÜŤťŁ×čáíóúĄąŽžĘę¬źČş«»░▒▓│┤ÁÂĚŞ╣║╗╝Żż┐└┴┬├─┼Ăă╚╔╩╦╠═╬¤đĐĎ",
          "ËďŇÍÎě┘┌█▄ŢŮ▀ÓßÔŃńňŠšŔÚŕŰýÝţ´\xad˝˛ˇ˘§÷¸°¨˙űŘř■\xa0" ] },
    { name := "cp855",
      others := ["855", "csibm855", "ibm855"],
      rows :=
        [ "ђЂѓЃёЁєЄѕЅіІїЇјЈљЉњЊћЋќЌўЎџЏюЮъЪаАбБцЦдДеЕфФгГ«»░▒▓│┤хХиИ╣║╗╝йЙ┐└┴┬├─┼кК╚╔╩╦╠═╬¤лЛм",
          "МнНоОп┘┌█▄Пя▀ЯрРсСтТуУжЖвВьЬ№\xadыЫзЗшШэЭщЩчЧ§■\xa0" ] },
    { name := "cp856",
      rows :=
        [ "\u05D0\u05D1\u05D2\u05D3\u05D4\u05D5\u05D6\u05D7\u05D8\u05D9\u05DA\u05DB\u05DC",
          "\u05DD\u05DE\u05DF\u05E0\u05E1\u05E2\u05E3\u05E4\u05E5\u05E6\u05E7\u05E8\u05E9",
          "\u05EA\x00£\x00×\x00\x00\x00\x00\x00\x00\x00\x00\x00\x00®¬½¼\x00«»░▒▓│┤\x00\x00\x00",
          "©╣║╗╝¢¥┐└┴┬├─┼\x00\x00╚╔╩╦╠═╬¤\x00\x00\x00\x00\x00\x00\x00\x00\x00┘┌█▄¦\x00▀\x00",
          "\x00\x00\x00\x00\x00µ\x00\x00\x00\x00\x00\x00\x00¯´\xad±‗¾¶§÷¸°¨·¹³²■\xa0" ] },
    { name := "cp857",
      others := ["857", "csibm857", "ibm857"],
      rows :=
        [ "ÇüéâäàåçêëèïîıÄÅÉæÆôöòûùİÖÜø£ØŞşáíóúñÑĞğ¿®¬½¼¡«»░▒▓│┤ÁÂÀ©╣║╗╝¢¥┐└┴┬├─┼ãÃ╚╔╩╦╠═╬¤ºªÊ",
          "ËÈ\x00ÍÎÏ┘┌█▄¦Ì▀ÓßÔÒõÕµ\x00×ÚÛÙìÿ¯´\xad±\x00¾¶§÷¸°¨·¹³²■\xa0" ] },
    { name := "cp858",
      others := ["858", "csibm858", "ibm858"],
      rows :=
        [ "ÇüéâäàåçêëèïîìÄÅÉæÆôöòûùÿÖÜø£Ø×ƒáíóúñÑªº¿®¬½¼¡«»░▒▓│┤ÁÂÀ©╣║╗╝¢¥┐└┴┬├─┼ãÃ╚╔╩╦╠═╬¤ðÐÊ",
          "ËÈ€ÍÎÏ┘┌█▄¦Ì▀ÓßÔÒõÕµþÞÚÛÙýÝ¯´\xad±‗¾¶§÷¸°¨·¹³²■\xa0" ] },
    { name := "cp860",
      others := ["860", "csibm860", "ibm860"],
      rows :=
        [ "ÇüéâãàÁçêÊèÍÔìÃÂÉÀÈôõòÚùÌÕÜ¢£Ù₧ÓáíóúñÑªº¿Ò¬½¼¡«»░▒▓│┤╡╢╖╕╣║╗╝╜╛┐└┴┬├─┼╞╟╚╔╩╦╠═╬╧╨╤╥",
          "╙╘╒╓╫╪┘┌█▄▌▐▀αßΓπΣσµτΦΘΩδ∞φε∩≡±≥≤⌠⌡÷≈°∙·√ⁿ²■\xa0" ] },
    { name := "cp861",
      others := ["861", "cp_is", "csibm861", "ibm861"],
      rows :=
        [ "ÇüéâäàåçêëèÐðÞÄÅÉæÆôöþûÝýÖÜø£Ø₧ƒáíóúÁÍÓÚ¿⌐¬½¼¡«»░▒▓│┤╡╢╖╕╣║╗╝╜╛┐└┴┬├─┼╞╟╚╔╩╦╠═╬╧╨╤╥",
          "╙╘╒╓╫╪┘┌█▄▌▐▀αßΓπΣσµτΦΘΩδ∞φε∩≡±≥≤⌠⌡÷≈°∙·√ⁿ²■\xa0" ] },
    { name := "cp862",
      others := ["862", "cspc862latinhebrew", "ibm862"],
      rows :=
        [ "\u05D0\u05D1\u05D2\u05D3\u05D4\u05D5\u05D6\u05D7\u05D8\u05D9\u05DA\u05DB\u05DC",
          "\u05DD\u05DE\u05DF\u05E0\u05E1\u05E2\u05E3\u05E4\u05E5\u05E6\u05E7\u05E8\u05E9",
          "\u05EA¢£¥₧ƒáíóúñÑªº¿⌐¬½¼¡«»░▒▓│┤╡╢╖╕╣║╗╝╜╛┐└┴┬├─┼╞╟╚╔╩╦╠═╬╧╨╤╥╙╘╒╓╫╪┘┌█▄▌▐▀αßΓπΣσµτ",
          "ΦΘΩδ∞φε∩≡±≥≤⌠⌡÷≈°∙·√ⁿ²■\xa0" ] },
    { name := "cp863",
      others := ["863", "csibm863", "ibm863"],
      rows :=
        [ "ÇüéâÂà¶çêëèïî‗À§ÉÈÊôËÏûù¤ÔÜ¢£ÙÛƒ¦´óú¨¸³¯Î⌐¬½¼¾«»░▒▓│┤╡╢╖╕╣║╗╝╜╛┐└┴┬├─┼╞╟╚╔╩╦╠═╬╧╨╤╥",
          "╙╘╒╓╫╪┘┌█▄▌▐▀αßΓπΣσµτΦΘΩδ∞φε∩≡±≥≤⌠⌡÷≈°∙·√ⁿ²■\xa0" ] },
    { name := "cp864",
      others := ["864", "csibm864", "ibm864"],
      start := 0x25,
      rows :=
        [ "\u066A&'()*+,-./0123456789:;<=>?@ABCDEFGHIJKLMNOPQRSTUVWXYZ[\\]^_\x60abcdefghijklmn",
          "opqrstuvwxyz\x7b|\x7d~\x7f°·∙√▒─│┼┤┬├┴┐┌└┘β∞φ±½¼≈«»\uFEF7\uFEF8\x00\x00\uFEFB\uFEFC",
          "\x00\xa0\xad\uFE82£¤\uFE84\x00\x00\uFE8E\uFE8F\uFE95\uFE99\u060C\uFE9D\uFEA1\uFEA5",
          "\u0660\u0661\u0662\u0663\u0664\u0665\u0666\u0667\u0668\u0669\uFED1\u061B\uFEB1",
          "\uFEB5\uFEB9\u061F¢\uFE80\uFE81\uFE83\uFE85\uFECA\uFE8B\uFE8D\uFE91\uFE93\uFE97",
          "\uFE9B\uFE9F\uFEA3\uFEA7\uFEA9\uFEAB\uFEAD\uFEAF\uFEB3\uFEB7\uFEBB\uFEBF\uFEC1",
          "\uFEC5\uFECB\uFECF¦¬÷×\uFEC9\u0640\uFED3\uFED7\uFEDB\uFEDF\uFEE3\uFEE7\uFEEB\uFEED",
          "\uFEEF\uFEF3\uFEBD\uFECC\uFECE\uFECD\uFEE1\uFE7D\u0651\uFEE5\uFEE9\uFEEC\uFEF0",
          "\uFEF2\uFED0\uFED5\uFEF5\uFEF6\uFEDD\uFED9\uFEF1■\x00" ] },
    { name := "cp865",
      others := ["865", "csibm865", "ibm865"],
      rows :=
        [ "ÇüéâäàåçêëèïîìÄÅÉæÆôöòûùÿÖÜø£Ø₧ƒáíóúñÑªº¿⌐¬½¼¡«¤░▒▓│┤╡╢╖╕╣║╗╝╜╛┐└┴┬├─┼╞╟╚╔╩╦╠═╬╧╨╤╥",
          "╙╘╒╓╫╪┘┌█▄▌▐▀αßΓπΣσµτΦΘΩδ∞φε∩≡±≥≤⌠⌡÷≈°∙·√ⁿ²■\xa0" ] },
    { name := "cp866",
      others := ["866", "csibm866", "ibm866"],
      rows :=
        [ "АБВГДЕЖЗИЙКЛМНОПРСТУФХЦЧШЩЪЫЬЭЮЯабвгдежзийклмноп░▒▓│┤╡╢╖╕╣║╗╝╜╛┐└┴┬├─┼╞╟╚╔╩╦╠═╬╧╨╤╥",
          "╙╘╒╓╫╪┘┌█▄▌▐▀рстуфхцчшщъыьэюяЁёЄєЇїЎў°∙·√№¤■\xa0" ] },
    { name := "cp869",
      others := ["869", "cp_gr", "csibm869", "ibm869"],
      rows :=
        [ "\x00\x00\x00\x00\x00\x00Ά\x00·¬¦‘’Έ―ΉΊΪΌ\x00\x00ΎΫ©Ώ²³ά£έήίϊΐόύΑΒΓΔΕΖΗ½ΘΙ«»░▒▓│┤ΚΛΜ",
          "Ν╣║╗╝ΞΟ┐└┴┬├─┼ΠΡ╚╔╩╦╠═╬ΣΤΥΦΧΨΩαβγ┘┌█▄δε▀ζηθικλμνξοπρσςτ΄\xad±υφχ§ψ΅°¨ωϋΰώ■\xa0" ] },
    { name := "cp1125",
      others := ["1125", "cp866u", "ibm1125", "ruscii"],
      rows :=
        [ "АБВГДЕЖЗИЙКЛМНОПРСТУФХЦЧШЩЪЫЬЭЮЯабвгдежзийклмноп░▒▓│┤╡╢╖╕╣║╗╝╜╛┐└┴┬├─┼╞╟╚╔╩╦╠═╬╧╨╤╥",
          "╙╘╒╓╫╪┘┌█▄▌▐▀рстуфхцчшщъыьэюяЁёҐґЄєІіЇї·√№¤■\xa0" ] } ]

/-- The code pages of the Macintosh. -/
def macPages : List CodePage :=
  [ { name := "mac_arabic",
      rows :=
        [ "Ä\xa0ÇÉÑÖÜáàâä\u06BA«çéèêëí…îïñó»ôö÷úùûü !\"#$\u066A&'()*+\u060C-./\u0660\u0661",
          "\u0662\u0663\u0664\u0665\u0666\u0667\u0668\u0669:\u061B<=>\u061F❊\u0621\u0622\u0623",
          "\u0624\u0625\u0626\u0627\u0628\u0629\u062A\u062B\u062C\u062D\u062E\u062F\u0630",
          "\u0631\u0632\u0633\u0634\u0635\u0636\u0637\u0638\u0639\u063A[\\]^_\u0640\u0641",
          "\u0642\u0643\u0644\u0645\u0646\u0647\u0648\u0649\u064A\u064B\u064C\u064D\u064E",
          "\u064F\u0650\u0651\u0652\u067E\u0679\u0686\u06D5\u06A4\u06AF\u0688\u0691\x7b|\x7d",
          "\u0698\u06D2" ] },
    { name := "mac_croatian",
      rows :=
        [ "ÄÅÇÉÑÖÜáàâäãåçéèêëíìîïñóòôöõúùûü†°¢£§•¶ß®Š™´¨≠ŽØ∞±≤≥∆µ∂∑∏š∫ªºΩžø¿¡¬√ƒ≈Ć«Č…\xa0ÀÃÕŒœ",
          "Đ—“”‘’÷◊\uF8FF©⁄€‹›Æ»–·‚„‰ÂćÁčÈÍÎÏÌÓÔđÒÚÛÙıˆ˜¯πË˚¸Êæˇ" ] },
    { name := "mac_cyrillic",
      others := ["maccyrillic"],
      rows :=
        [ "АБВГДЕЖЗИЙКЛМНОПРСТУФХЦЧШЩЪЫЬЭЮЯ†°Ґ£§•¶І®©™Ђђ≠Ѓѓ∞±≤≥іµґЈЄєЇїЉљЊњјЅ¬√ƒ≈∆«»…\xa0ЋћЌќѕ",
          "–—“”‘’÷„ЎўЏџ№Ёёяабвгдежзийклмнопрстуфхцчшщъыьэю€" ] },
    { name := "mac_farsi",
      rows :=
        [ "Ä\xa0ÇÉÑÖÜáàâä\u06BA«çéèêëí…îïñó»ôö÷úùûü !\"#$\u066A&'()*+\u060C-./\u06F0\u06F1",
          "\u06F2\u06F3\u06F4\u06F5\u06F6\u06F7\u06F8\u06F9:\u061B<=>\u061F❊\u0621\u0622\u0623",
          "\u0624\u0625\u0626\u0627\u0628\u0629\u062A\u062B\u062C\u062D\u062E\u062F\u0630",
          "\u0631\u0632\u0633\u0634\u0635\u0636\u0637\u0638\u0639\u063A[\\]^_\u0640\u0641",
          "\u0642\u0643\u0644\u0645\u0646\u0647\u0648\u0649\u064A\u064B\u064C\u064D\u064E",
          "\u064F\u0650\u0651\u0652\u067E\u0679\u0686\u06D5\u06A4\u06AF\u0688\u0691\x7b|\x7d",
          "\u0698\u06D2" ] },
    { name := "mac_greek",
      others := ["macgreek"],
      rows :=
        [ "Ä¹²É³ÖÜ΅àâä΄¨çéèêë£™îï•½‰ôö¦€ùûü†ΓΔΘΛΞΠß®©ΣΪ§≠°·Α±≤≥¥ΒΕΖΗΙΚΜΦΫΨΩάΝ¬ΟΡ≈Τ«»…\xa0ΥΧΆΈœ",
          "–―“”‘’÷ΉΊΌΎέήίόΏύαβψδεφγηιξκλμνοπώρστθωςχυζϊϋΐΰ\xad" ] },
    { name := "mac_iceland",
      others := ["maciceland"],
      rows :=
        [ "ÄÅÇÉÑÖÜáàâäãåçéèêëíìîïñóòôöõúùûüÝ°¢£§•¶ß®©™´¨≠ÆØ∞±≤≥¥µ∂∑∏π∫ªºΩæø¿¡¬√ƒ≈∆«»…\xa0ÀÃÕŒœ",
          "–—“”‘’÷◊ÿŸ⁄€ÐðÞþý·‚„‰ÂÊÁËÈÍÎÏÌÓÔ\uF8FFÒÚÛÙıˆ˜¯˘˙˚¸˝˛ˇ" ] },
    { name := "mac_latin2",
      others := ["mac_centeuro", "maccentraleurope", "maclatin2"],
      rows :=
        [ "ÄĀāÉĄÖÜáąČäčĆćéŹźĎíďĒēĖóėôöõúĚěü†°Ę£§•¶ß®©™ę¨≠ģĮįĪ≤≥īĶ∂∑łĻļĽľĹĺŅņŃ¬√ńŇ∆«»…\xa0ňŐÕőŌ",
          "–—“”‘’÷◊ōŔŕŘ‹›řŖŗŠ‚„šŚśÁŤťÍŽžŪÓÔūŮÚůŰűŲųÝýķŻŁżĢˇ" ] },
    { name := "mac_roman",
      others := ["macintosh", "macroman"],
      rows :=
        [ "ÄÅÇÉÑÖÜáàâäãåçéèêëíìîïñóòôöõúùûü†°¢£§•¶ß®©™´¨≠ÆØ∞±≤≥¥µ∂∑∏π∫ªºΩæø¿¡¬√ƒ≈∆«»…\xa0ÀÃÕŒœ",
          "–—“”‘’÷◊ÿŸ⁄€‹›ﬁﬂ‡·‚„‰ÂÊÁËÈÍÎÏÌÓÔ\uF8FFÒÚÛÙıˆ˜¯˘˙˚¸˝˛ˇ" ] },
    { name := "mac_romanian",
      rows :=
        [ "ÄÅÇÉÑÖÜáàâäãåçéèêëíìîïñóòôöõúùûü†°¢£§•¶ß®©™´¨≠ĂȘ∞±≤≥¥µ∂∑∏π∫ªºΩăș¿¡¬√ƒ≈∆«»…\xa0ÀÃÕŒœ",
          "–—“”‘’÷◊ÿŸ⁄€‹›Țț‡·‚„‰ÂÊÁËÈÍÎÏÌÓÔ\uF8FFÒÚÛÙıˆ˜¯˘˙˚¸˝˛ˇ" ] },
    { name := "mac_turkish",
      others := ["macturkish"],
      rows :=
        [ "ÄÅÇÉÑÖÜáàâäãåçéèêëíìîïñóòôöõúùûü†°¢£§•¶ß®©™´¨≠ÆØ∞±≤≥¥µ∂∑∏π∫ªºΩæø¿¡¬√ƒ≈∆«»…\xa0ÀÃÕŒœ",
          "–—“”‘’÷◊ÿŸĞğİıŞş‡·‚„‰ÂÊÁËÈÍÎÏÌÓÔ\uF8FFÒÚÛÙ\uF8A0ˆ˜¯˘˙˚¸˝˛ˇ" ] } ]

/-- The code pages of EBCDIC, which differ from ASCII in the letters, too. -/
def ebcdicPages : List CodePage :=
  [ { name := "cp037",
      others := ["037", "csibm037", "ebcdic_cp_ca", "ebcdic_cp_nl", "ebcdic_cp_us",
        "ebcdic_cp_wt", "ibm037", "ibm039"],
      start := 0x04,
      rows :=
        [ "\x9c\x09\x86\x7f\x97\x8d\x8e\x0b\x0c\x0d\x0e\x0f\x10\x11\x12\x13\x9d\x85\x08\x87",
          "\x18\x19\x92\x8f\x1c\x1d\x1e\x1f\x80\x81\x82\x83\x84\x0a\x17\x1b\x88\x89\x8a\x8b",
          "\x8c\x05\x06\x07\x90\x91\x16\x93\x94\x95\x96\x04\x98\x99\x9a\x9b\x14\x15\x9e\x1a ",
          "\xa0âäàáãåçñ¢.<(+|&éêëèíîïìß!$*);¬-/ÂÄÀÁÃÅÇÑ¦,%_>?øÉÊËÈÍÎÏÌ\x60:#@'=\"Øabcdefghi«»ð",
          "ýþ±°jklmnopqrªºæ¸Æ¤µ~stuvwxyz¡¿ÐÝÞ®^£¥·©§¶¼½¾[]¯¨´×\x7bABCDEFGHI\xadôöòóõ\x7dJKLMNO",
          "PQR¹ûüùúÿ\\÷STUVWXYZ²ÔÖÒÓÕ0123456789³ÛÜÙÚ\x9f" ] },
    { name := "cp273",
      others := ["273", "csibm273", "ibm273"],
      start := 0x04,
      rows :=
        [ "\x9c\x09\x86\x7f\x97\x8d\x8e\x0b\x0c\x0d\x0e\x0f\x10\x11\x12\x13\x9d\x85\x08\x87",
          "\x18\x19\x92\x8f\x1c\x1d\x1e\x1f\x80\x81\x82\x83\x84\x0a\x17\x1b\x88\x89\x8a\x8b",
          "\x8c\x05\x06\x07\x90\x91\x16\x93\x94\x95\x96\x04\x98\x99\x9a\x9b\x14\x15\x9e\x1a ",
          "\xa0â\x7bàáãåçñÄ.<(+!&éêëèíîïì~Ü$*);^-/Â[ÀÁÃÅÇÑö,%_>?øÉÊËÈÍÎÏÌ\x60:#§'=\"Øabcdefghi",
          "«»ðýþ±°jklmnopqrªºæ¸Æ¤µßstuvwxyz¡¿ÐÝÞ®¢£¥·©@¶¼½¾¬|‾¨´×äABCDEFGHI\xadô¦òóõüJKLMNOPQR",
          "¹û\x7dùúÿÖ÷STUVWXYZ²Ô\\ÒÓÕ0123456789³Û]ÙÚ\x9f" ] },
    { name := "cp424",
      others := ["424", "csibm424", "ebcdic_cp_he", "ibm424"],
      start := 0x04,
      rows :=
        [ "\x9c\x09\x86\x7f\x97\x8d\x8e\x0b\x0c\x0d\x0e\x0f\x10\x11\x12\x13\x9d\x85\x08\x87",
          "\x18\x19\x92\x8f\x1c\x1d\x1e\x1f\x80\x81\x82\x83\x84\x0a\x17\x1b\x88\x89\x8a\x8b",
          "\x8c\x05\x06\x07\x90\x91\x16\x93\x94\x95\x96\x04\x98\x99\x9a\x9b\x14\x15\x9e\x1a ",
          "\u05D0\u05D1\u05D2\u05D3\u05D4\u05D5\u05D6\u05D7\u05D8¢.<(+|&\u05D9\u05DA\u05DB",
          "\u05DC\u05DD\u05DE\u05DF\u05E0\u05E1!$*);¬-/\u05E2\u05E3\u05E4\u05E5\u05E6\u05E7",
          "\u05E8\u05E9¦,%_>?\x00\u05EA\x00\x00\xa0\x00\x00\x00‗\x60:#@'=\"\x00abcdefghi«»\x00",
          "\x00\x00±°jklmnopqr\x00\x00\x00¸\x00¤µ~stuvwxyz\x00\x00\x00\x00\x00®^£¥·©§¶¼½¾[]¯¨´",
          "×\x7bABCDEFGHI\xad\x00\x00\x00\x00\x00\x7dJKLMNOPQR¹\x00\x00\x00\x00\x00\\÷STUVWXYZ",
          "²\x00\x00\x00\x00\x000123456789³\x00\x00\x00\x00\x9f" ] },
    { name := "cp500",
      others := ["500", "csibm500", "ebcdic_cp_be", "ebcdic_cp_ch", "ibm500"],
      start := 0x04,
      rows :=
        [ "\x9c\x09\x86\x7f\x97\x8d\x8e\x0b\x0c\x0d\x0e\x0f\x10\x11\x12\x13\x9d\x85\x08\x87",
          "\x18\x19\x92\x8f\x1c\x1d\x1e\x1f\x80\x81\x82\x83\x84\x0a\x17\x1b\x88\x89\x8a\x8b",
          "\x8c\x05\x06\x07\x90\x91\x16\x93\x94\x95\x96\x04\x98\x99\x9a\x9b\x14\x15\x9e\x1a ",
          "\xa0âäàáãåçñ[.<(+!&éêëèíîïìß]$*);^-/ÂÄÀÁÃÅÇÑ¦,%_>?øÉÊËÈÍÎÏÌ\x60:#@'=\"Øabcdefghi«»ð",
          "ýþ±°jklmnopqrªºæ¸Æ¤µ~stuvwxyz¡¿ÐÝÞ®¢£¥·©§¶¼½¾¬|¯¨´×\x7bABCDEFGHI\xadôöòóõ\x7dJKLMNO",
          "PQR¹ûüùúÿ\\÷STUVWXYZ²ÔÖÒÓÕ0123456789³ÛÜÙÚ\x9f" ] },
    { name := "cp875",
      start := 0x04,
      rows :=
        [ "\x9c\x09\x86\x7f\x97\x8d\x8e\x0b\x0c\x0d\x0e\x0f\x10\x11\x12\x13\x9d\x85\x08\x87",
          "\x18\x19\x92\x8f\x1c\x1d\x1e\x1f\x80\x81\x82\x83\x84\x0a\x17\x1b\x88\x89\x8a\x8b",
          "\x8c\x05\x06\x07\x90\x91\x16\x93\x94\x95\x96\x04\x98\x99\x9a\x9b\x14\x15\x9e\x1a ΑΒ",
          "ΓΔΕΖΗΘΙ[.<(+!&ΚΛΜΝΞΟΠΡΣ]$*);^-/ΤΥΦΧΨΩΪΫ|,%_>?¨ΆΈΉ\xa0ΊΌΎΏ\x60:#@'=\"΅abcdefghiαβγδε",
          "ζ°jklmnopqrηθικλμ´~stuvwxyzνξοπρσ£άέήϊίόύϋώςτυφχψ\x7bABCDEFGHI\xadωΐΰ‘―\x7dJKLMNOPQ",
          "R±½\x1a·’¦\\\x1aSTUVWXYZ²§\x1a\x1a«¬0123456789³©\x1a\x1a»\x9f" ] },
    { name := "cp1026",
      others := ["1026", "csibm1026", "ibm1026"],
      start := 0x04,
      rows :=
        [ "\x9c\x09\x86\x7f\x97\x8d\x8e\x0b\x0c\x0d\x0e\x0f\x10\x11\x12\x13\x9d\x85\x08\x87",
          "\x18\x19\x92\x8f\x1c\x1d\x1e\x1f\x80\x81\x82\x83\x84\x0a\x17\x1b\x88\x89\x8a\x8b",
          "\x8c\x05\x06\x07\x90\x91\x16\x93\x94\x95\x96\x04\x98\x99\x9a\x9b\x14\x15\x9e\x1a ",
          "\xa0âäàáãå\x7bñÇ.<(+!&éêëèíîïìßĞİ*);^-/ÂÄÀÁÃÅ[Ñş,%_>?øÉÊËÈÍÎÏÌı:ÖŞ'=ÜØabcdefghi«»",
          "\x7d\x60¦±°jklmnopqrªºæ¸Æ¤µöstuvwxyz¡¿]$@®¢£¥·©§¶¼½¾¬|¯¨´×çABCDEFGHI\xadô~òóõğJKLMN",
          "OPQR¹û\\ùúÿü÷STUVWXYZ²Ô#ÒÓÕ0123456789³Û\"ÙÚ\x9f" ] },
    { name := "cp1140",
      others := ["1140", "ibm1140"],
      start := 0x04,
      rows :=
        [ "\x9c\x09\x86\x7f\x97\x8d\x8e\x0b\x0c\x0d\x0e\x0f\x10\x11\x12\x13\x9d\x85\x08\x87",
          "\x18\x19\x92\x8f\x1c\x1d\x1e\x1f\x80\x81\x82\x83\x84\x0a\x17\x1b\x88\x89\x8a\x8b",
          "\x8c\x05\x06\x07\x90\x91\x16\x93\x94\x95\x96\x04\x98\x99\x9a\x9b\x14\x15\x9e\x1a ",
          "\xa0âäàáãåçñ¢.<(+|&éêëèíîïìß!$*);¬-/ÂÄÀÁÃÅÇÑ¦,%_>?øÉÊËÈÍÎÏÌ\x60:#@'=\"Øabcdefghi«»ð",
          "ýþ±°jklmnopqrªºæ¸Æ€µ~stuvwxyz¡¿ÐÝÞ®^£¥·©§¶¼½¾[]¯¨´×\x7bABCDEFGHI\xadôöòóõ\x7dJKLMNO",
          "PQR¹ûüùúÿ\\÷STUVWXYZ²ÔÖÒÓÕ0123456789³ÛÜÙÚ\x9f" ] } ]

/-- Code pages of other systems. -/
def otherPages : List CodePage :=
  [ { name := "cp1006",
      start := 0xA1,
      rows :=
        [ "\u06F0\u06F1\u06F2\u06F3\u06F4\u06F5\u06F6\u06F7\u06F8\u06F9\u060C\u061B\xad\u061F",
          "\uFE81\uFE8D\uFE8E\uFE8E\uFE8F\uFE91\uFB56\uFB58\uFE93\uFE95\uFE97\uFB66\uFB68",
          "\uFE99\uFE9B\uFE9D\uFE9F\uFB7A\uFB7C\uFEA1\uFEA3\uFEA5\uFEA7\uFEA9\uFB84\uFEAB",
          "\uFEAD\uFB8C\uFEAF\uFB8A\uFEB1\uFEB3\uFEB5\uFEB7\uFEB9\uFEBB\uFEBD\uFEBF\uFEC1",
          "\uFEC5\uFEC9\uFECA\uFECB\uFECC\uFECD\uFECE\uFECF\uFED0\uFED1\uFED3\uFED5\uFED7",
          "\uFED9\uFEDB\uFB92\uFB94\uFEDD\uFEDF\uFEE0\uFEE1\uFEE3\uFB9E\uFEE5\uFEE7\uFE85",
          "\uFEED\uFBA6\uFBA8\uFBA9\uFBAA\uFE80\uFE89\uFE8A\uFE8B\uFEF1\uFEF2\uFEF3\uFBB0",
          "\uFBAE\uFE7C\uFE7D" ] },
    { name := "hp_roman8",
      others := ["cp1051", "ibm1051", "r8", "roman8"],
      start := 0xA1,
      rows :=
        [ "ÀÂÈÊËÎÏ´ˋˆ¨˜ÙÛ₤¯Ýý°ÇçÑñ¡¿¤£¥§ƒ¢âêôûáéóúàèòùäëöüÅîØÆåíøæÄìÖÜÉïßÔÁÃãÐðÍÌÓÒÕõŠšÚŸÿÞþ·µ",
          "¶¾—¼½ªº«■»±\x00" ] },
    { name := "koi8_r",
      others := ["cskoi8r"],
      rows :=
        [ "─│┌┐└┘├┤┬┴┼▀▄█▌▐░▒▓⌠■∙√≈≤≥\xa0⌡°²·÷═║╒ё╓╔╕╖╗╘╙╚╛╜╝╞╟╠╡Ё╢╣╤╥╦╧╨╩╪╫╬©юабцдефгхийклмно",
          "пярстужвьызшэщчъЮАБЦДЕФГХИЙКЛМНОПЯРСТУЖВЬЫЗШЭЩЧЪ" ] },
    { name := "koi8_t",
      rows :=
        [ "қғ‚Ғ„…†‡\x00‰ҳ‹ҲҷҶ\x00Қ‘’“”•–—\x00™\x00›\x00\x00\x00\x00\x00ӯӮё¤ӣ¦§\x00\x00\x00«¬",
          "\xad®\x00°±²Ё\x00Ӣ¶·\x00№\x00»\x00\x00\x00©юабцдефгхийклмнопярстужвьызшэщчъЮАБЦДЕФГ",
          "ХИЙКЛМНОПЯРСТУЖВЬЫЗШЭЩЧЪ" ] },
    { name := "koi8_u",
      rows :=
        [ "─│┌┐└┘├┤┬┴┼▀▄█▌▐░▒▓⌠■∙√≈≤≥\xa0⌡°²·÷═║╒ёє╔ії╗╘╙╚╛ґ╝╞╟╠╡ЁЄ╣ІЇ╦╧╨╩╪Ґ╬©юабцдефгхийклмно",
          "пярстужвьызшэщчъЮАБЦДЕФГХИЙКЛМНОПЯРСТУЖВЬЫЗШЭЩЧЪ" ] },
    { name := "kz1048",
      others := ["kz_1048", "rk1048", "strk1048_2002"],
      rows :=
        [ "ЂЃ‚ѓ„…†‡€‰Љ‹ЊҚҺЏђ‘’“”•–—\x00™љ›њқһџ\xa0ҰұӘ¤Ө¦§Ё©Ғ«¬\xad®Ү°±Ііөµ¶·ё№ғ»әҢңүАБВГДЕЖЗИЙ",
          "КЛМНОПРСТУФХЦЧШЩЪЫЬЭЮЯабвгдежзийклмнопрстуфхцчшщъыьэюя" ] },
    { name := "palmos",
      rows :=
        [ "€\x81‚ƒ„…†‡ˆ‰Š‹Œ♦♣♥♠‘’“”•–—˜™š\x9bœ\x9d\x9eŸ" ] },
    { name := "ptcp154",
      others := ["cp154", "csptcp154", "cyrillic_asian", "pt154"],
      rows :=
        [ "ҖҒӮғ„…ҶҮҲүҠӢҢҚҺҸҗ‘’“”•–—ҳҷҡӣңқһҹ\xa0ЎўЈӨҘҰ§Ё©Ә«¬ӯ®Ҝ°ұІіҙө¶·ё№ә»јҪҫҝАБВГДЕЖЗИЙКЛМНОП",
          "РСТУФХЦЧШЩЪЫЬЭЮЯабвгдежзийклмнопрстуфхцчшщъыьэюя" ] } ]

def codePages : List CodePage :=
  isoPages ++ windowsPages ++ dosPages ++ macPages ++ ebcdicPages ++ otherPages

end PlotStream.Encoding
