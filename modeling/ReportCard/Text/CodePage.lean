/-!
# Code pages

Encodings of one byte a character.  Each has its names, in small letters with an underscore between their parts, and
the characters from 0x80 on, or all characters if it does not agree with ASCII below, U+FFFE where there is none.  A
color may be written as bytes along with the name of their encoding.
-/

namespace ReportCard.Text

/-- The names of code pages with their upper halves. -/
def codePages : List (List String × List String) :=
  [(["cp1006"],
    ["\u0080\u0081\u0082\u0083\u0084\u0085\u0086\u0087\u0088\u0089\u008A\u008B\u008C\u008D\u008E\u008F\u0090\u0091",
     "\u0092\u0093\u0094\u0095\u0096\u0097\u0098\u0099\u009A\u009B\u009C\u009D\u009E\u009F\u00A0۰۱۲۳۴۵۶۷۸۹،\u061B",
     "\u00AD\u061F\uFE81\uFE8D\uFE8E\uFE8E\uFE8F\uFE91\uFB56\uFB58\uFE93\uFE95\uFE97\uFB66\uFB68\uFE99\uFE9B\uFE9D",
     "\uFE9F\uFB7A\uFB7C\uFEA1\uFEA3\uFEA5\uFEA7\uFEA9\uFB84\uFEAB\uFEAD\uFB8C\uFEAF\uFB8A\uFEB1\uFEB3\uFEB5\uFEB7",
     "\uFEB9\uFEBB\uFEBD\uFEBF\uFEC1\uFEC5\uFEC9\uFECA\uFECB\uFECC\uFECD\uFECE\uFECF\uFED0\uFED1\uFED3\uFED5\uFED7",
     "\uFED9\uFEDB\uFB92\uFB94\uFEDD\uFEDF\uFEE0\uFEE1\uFEE3\uFB9E\uFEE5\uFEE7\uFE85\uFEED\uFBA6\uFBA8\uFBA9\uFBAA",
     "\uFE80\uFE89\uFE8A\uFE8B\uFEF1\uFEF2\uFEF3\uFBB0\uFBAE\uFE7C\uFE7D"]),
   (["cp1125", "1125", "ibm1125", "cp866u", "ruscii"],
    ["АБВГДЕЖЗИЙКЛМНОПРСТУФХЦЧШЩЪЫЬЭЮЯабвгдежзийклмноп░▒▓│┤╡╢╖╕╣║╗╝╜╛┐└┴┬├─┼╞╟╚╔╩╦╠═╬╧╨╤╥╙╘╒╓╫╪┘┌█▄▌▐▀рстуфхцчшщъыь",
     "эюяЁёҐґЄєІіЇї·√№¤■\u00A0"]),
   (["cp1250", "1250", "windows_1250"],
    ["€\uFFFE‚\uFFFE„…†‡\uFFFE‰Š‹ŚŤŽŹ\uFFFE‘’“”•–—\uFFFE™š›śťžź\u00A0ˇ˘Ł¤Ą¦§¨©Ş«¬\u00AD®Ż°±˛ł´µ¶·¸ąş»Ľ˝ľżŔÁÂĂÄĹĆÇČÉ",
     "ĘËĚÍÎĎĐŃŇÓÔŐÖ×ŘŮÚŰÜÝŢßŕáâăäĺćçčéęëěíîďđńňóôőö÷řůúűüýţ˙"]),
   (["cp1251", "1251", "windows_1251"],
    ["ЂЃ‚ѓ„…†‡€‰Љ‹ЊЌЋЏђ‘’“”•–—\uFFFE™љ›њќћџ\u00A0ЎўЈ¤Ґ¦§Ё©Є«¬\u00AD®Ї°±Ііґµ¶·ё№є»јЅѕїАБВГДЕЖЗИЙКЛМНОПРСТУФХЦЧШЩЪЫЬЭ",
     "ЮЯабвгдежзийклмнопрстуфхцчшщъыьэюя"]),
   (["cp1252", "1252", "windows_1252"],
    ["€\uFFFE‚ƒ„…†‡ˆ‰Š‹Œ\uFFFEŽ\uFFFE\uFFFE‘’“”•–—˜™š›œ\uFFFEžŸ\u00A0¡¢£¤¥¦§¨©ª«¬\u00AD®¯°±²³´µ¶·¸¹º»¼½¾¿ÀÁÂÃÄÅÆÇÈÉ",
     "ÊËÌÍÎÏÐÑÒÓÔÕÖ×ØÙÚÛÜÝÞßàáâãäåæçèéêëìíîïðñòóôõö÷øùúûüýþÿ"]),
   (["cp1253", "1253", "windows_1253"],
    ["€\uFFFE‚ƒ„…†‡\uFFFE‰\uFFFE‹\uFFFE\uFFFE\uFFFE\uFFFE\uFFFE‘’“”•–—\uFFFE™\uFFFE›\uFFFE\uFFFE\uFFFE\uFFFE\u00A0΅",
     "Ά£¤¥¦§¨©\uFFFE«¬\u00AD®―°±²³΄µ¶·ΈΉΊ»Ό½ΎΏΐΑΒΓΔΕΖΗΘΙΚΛΜΝΞΟΠΡ\uFFFEΣΤΥΦΧΨΩΪΫάέήίΰαβγδεζηθικλμνξοπρςστυφχψωϊϋόύώ",
     "\uFFFE"]),
   (["cp1254", "1254", "windows_1254"],
    ["€\uFFFE‚ƒ„…†‡ˆ‰Š‹Œ\uFFFE\uFFFE\uFFFE\uFFFE‘’“”•–—˜™š›œ\uFFFE\uFFFEŸ\u00A0¡¢£¤¥¦§¨©ª«¬\u00AD®¯°±²³´µ¶·¸¹º»¼½¾¿",
     "ÀÁÂÃÄÅÆÇÈÉÊËÌÍÎÏĞÑÒÓÔÕÖ×ØÙÚÛÜİŞßàáâãäåæçèéêëìíîïğñòóôõö÷øùúûüışÿ"]),
   (["cp1255", "1255", "windows_1255"],
    ["€\uFFFE‚ƒ„…†‡ˆ‰\uFFFE‹\uFFFE\uFFFE\uFFFE\uFFFE\uFFFE‘’“”•–—˜™\uFFFE›\uFFFE\uFFFE\uFFFE\uFFFE\u00A0¡¢£₪¥¦§¨©×«",
     "¬\u00AD®¯°±²³´µ¶·¸¹÷»¼½¾¿\u05B0\u05B1\u05B2\u05B3\u05B4\u05B5\u05B6\u05B7\u05B8\u05B9\uFFFE\u05BB\u05BC\u05BD",
     "\u05BE\u05BF\u05C0\u05C1\u05C2\u05C3\u05F0\u05F1\u05F2\u05F3\u05F4\uFFFE\uFFFE\uFFFE\uFFFE\uFFFE\uFFFE\uFFFE",
     "\u05D0\u05D1\u05D2\u05D3\u05D4\u05D5\u05D6\u05D7\u05D8\u05D9\u05DA\u05DB\u05DC\u05DD\u05DE\u05DF\u05E0\u05E1",
     "\u05E2\u05E3\u05E4\u05E5\u05E6\u05E7\u05E8\u05E9\u05EA\uFFFE\uFFFE\u200E\u200F\uFFFE"]),
   (["cp1256", "1256", "windows_1256"],
    ["€\u067E‚ƒ„…†‡ˆ‰\u0679‹Œ\u0686\u0698\u0688\u06AF‘’“”•–—\u06A9™\u0691›œ\u200C\u200D\u06BA\u00A0،¢£¤¥¦§¨©\u06BE«",
     "¬\u00AD®¯°±²³´µ¶·¸¹\u061B»¼½¾\u061F\u06C1\u0621\u0622\u0623\u0624\u0625\u0626\u0627\u0628\u0629\u062A\u062B",
     "\u062C\u062D\u062E\u062F\u0630\u0631\u0632\u0633\u0634\u0635\u0636×\u0637\u0638\u0639\u063A\u0640\u0641\u0642",
     "\u0643à\u0644â\u0645\u0646\u0647\u0648çèéêë\u0649\u064Aîï\u064B\u064C\u064D\u064Eô\u064F\u0650÷\u0651ù\u0652û",
     "ü\u200E\u200F\u06D2"]),
   (["cp1257", "1257", "windows_1257"],
    ["€\uFFFE‚\uFFFE„…†‡\uFFFE‰\uFFFE‹\uFFFE¨ˇ¸\uFFFE‘’“”•–—\uFFFE™\uFFFE›\uFFFE¯˛\uFFFE\u00A0\uFFFE¢£¤\uFFFE¦§Ø©Ŗ«",
     "¬\u00AD®Æ°±²³´µ¶·ø¹ŗ»¼½¾æĄĮĀĆÄÅĘĒČÉŹĖĢĶĪĻŠŃŅÓŌÕÖ×ŲŁŚŪÜŻŽßąįāćäåęēčéźėģķīļšńņóōõö÷ųłśūüżž˙"]),
   (["cp1258", "1258", "windows_1258"],
    ["€\uFFFE‚ƒ„…†‡ˆ‰\uFFFE‹Œ\uFFFE\uFFFE\uFFFE\uFFFE‘’“”•–—˜™\uFFFE›œ\uFFFE\uFFFEŸ\u00A0¡¢£¤¥¦§¨©ª«¬\u00AD®¯°±²³´µ",
     "¶·¸¹º»¼½¾¿ÀÁÂĂÄÅÆÇÈÉÊË\u0300ÍÎÏĐÑ\u0309ÓÔƠÖ×ØÙÚÛÜƯ\u0303ßàáâăäåæçèéêë\u0301íîïđñ\u0323óôơö÷øùúûüư₫ÿ"]),
   (["cp437", "437", "cspc8codepage437", "ibm437"],
    ["ÇüéâäàåçêëèïîìÄÅÉæÆôöòûùÿÖÜ¢£¥₧ƒáíóúñÑªº¿⌐¬½¼¡«»░▒▓│┤╡╢╖╕╣║╗╝╜╛┐└┴┬├─┼╞╟╚╔╩╦╠═╬╧╨╤╥╙╘╒╓╫╪┘┌█▄▌▐▀αßΓπΣσµτΦΘΩδ∞",
     "φε∩≡±≥≤⌠⌡÷≈°∙·√ⁿ²■\u00A0"]),
   (["cp720"],
    ["\u0080\u0081éâ\u0084à\u0086çêëèïî\u008D\u008E\u008F\u0090\u0651\u0652ô¤\u0640ûù\u0621\u0622\u0623\u0624£",
     "\u0625\u0626\u0627\u0628\u0629\u062A\u062B\u062C\u062D\u062E\u062F\u0630\u0631\u0632\u0633\u0634\u0635«»░▒▓│┤",
     "╡╢╖╕╣║╗╝╜╛┐└┴┬├─┼╞╟╚╔╩╦╠═╬╧╨╤╥╙╘╒╓╫╪┘┌█▄▌▐▀\u0636\u0637\u0638\u0639\u063A\u0641µ\u0642\u0643\u0644\u0645",
     "\u0646\u0647\u0648\u0649\u064A≡\u064B\u064C\u064D\u064E\u064F\u0650≈°∙·√ⁿ²■\u00A0"]),
   (["cp737"],
    ["ΑΒΓΔΕΖΗΘΙΚΛΜΝΞΟΠΡΣΤΥΦΧΨΩαβγδεζηθικλμνξοπρσςτυφχψ░▒▓│┤╡╢╖╕╣║╗╝╜╛┐└┴┬├─┼╞╟╚╔╩╦╠═╬╧╨╤╥╙╘╒╓╫╪┘┌█▄▌▐▀ωάέήϊίόύϋώΆΈΉ",
     "ΊΌΎΏ±≥≤ΪΫ÷≈°∙·√ⁿ²■\u00A0"]),
   (["cp775", "775", "cspc775baltic", "ibm775"],
    ["ĆüéāäģåćłēŖŗīŹÄÅÉæÆōöĢ¢ŚśÖÜø£Ø×¤ĀĪóŻżź”¦©®¬½¼Ł«»░▒▓│┤ĄČĘĖ╣║╗╝ĮŠ┐└┴┬├─┼ŲŪ╚╔╩╦╠═╬Žąčęėįšųūž┘┌█▄▌▐▀ÓßŌŃõÕµńĶķĻļņ",
     "ĒŅ’\u00AD±“¾¶§÷„°∙·¹³²■\u00A0"]),
   (["cp850", "850", "cspc850multilingual", "ibm850"],
    ["ÇüéâäàåçêëèïîìÄÅÉæÆôöòûùÿÖÜø£Ø×ƒáíóúñÑªº¿®¬½¼¡«»░▒▓│┤ÁÂÀ©╣║╗╝¢¥┐└┴┬├─┼ãÃ╚╔╩╦╠═╬¤ðÐÊËÈıÍÎÏ┘┌█▄¦Ì▀ÓßÔÒõÕµþÞÚÛÙý",
     "Ý¯´\u00AD±‗¾¶§÷¸°¨·¹³²■\u00A0"]),
   (["cp852", "852", "cspcp852", "ibm852"],
    ["ÇüéâäůćçłëŐőîŹÄĆÉĹĺôöĽľŚśÖÜŤťŁ×čáíóúĄąŽžĘę¬źČş«»░▒▓│┤ÁÂĚŞ╣║╗╝Żż┐└┴┬├─┼Ăă╚╔╩╦╠═╬¤đĐĎËďŇÍÎě┘┌█▄ŢŮ▀ÓßÔŃńňŠšŔÚŕŰý",
     "Ýţ´\u00AD˝˛ˇ˘§÷¸°¨˙űŘř■\u00A0"]),
   (["cp855", "855", "csibm855", "ibm855"],
    ["ђЂѓЃёЁєЄѕЅіІїЇјЈљЉњЊћЋќЌўЎџЏюЮъЪаАбБцЦдДеЕфФгГ«»░▒▓│┤хХиИ╣║╗╝йЙ┐└┴┬├─┼кК╚╔╩╦╠═╬¤лЛмМнНоОп┘┌█▄Пя▀ЯрРсСтТуУжЖвВ",
     "ьЬ№\u00ADыЫзЗшШэЭщЩчЧ§■\u00A0"]),
   (["cp856"],
    ["\u05D0\u05D1\u05D2\u05D3\u05D4\u05D5\u05D6\u05D7\u05D8\u05D9\u05DA\u05DB\u05DC\u05DD\u05DE\u05DF\u05E0\u05E1",
     "\u05E2\u05E3\u05E4\u05E5\u05E6\u05E7\u05E8\u05E9\u05EA\uFFFE£\uFFFE×\uFFFE\uFFFE\uFFFE\uFFFE\uFFFE\uFFFE",
     "\uFFFE\uFFFE\uFFFE\uFFFE®¬½¼\uFFFE«»░▒▓│┤\uFFFE\uFFFE\uFFFE©╣║╗╝¢¥┐└┴┬├─┼\uFFFE\uFFFE╚╔╩╦╠═╬¤\uFFFE\uFFFE",
     "\uFFFE\uFFFE\uFFFE\uFFFE\uFFFE\uFFFE\uFFFE┘┌█▄¦\uFFFE▀\uFFFE\uFFFE\uFFFE\uFFFE\uFFFE\uFFFEµ\uFFFE\uFFFE\uFFFE",
     "\uFFFE\uFFFE\uFFFE\uFFFE¯´\u00AD±‗¾¶§÷¸°¨·¹³²■\u00A0"]),
   (["cp857", "857", "csibm857", "ibm857"],
    ["ÇüéâäàåçêëèïîıÄÅÉæÆôöòûùİÖÜø£ØŞşáíóúñÑĞğ¿®¬½¼¡«»░▒▓│┤ÁÂÀ©╣║╗╝¢¥┐└┴┬├─┼ãÃ╚╔╩╦╠═╬¤ºªÊËÈ\uFFFEÍÎÏ┘┌█▄¦Ì▀ÓßÔÒõÕµ",
     "\uFFFE×ÚÛÙìÿ¯´\u00AD±\uFFFE¾¶§÷¸°¨·¹³²■\u00A0"]),
   (["cp858", "858", "csibm858", "ibm858"],
    ["ÇüéâäàåçêëèïîìÄÅÉæÆôöòûùÿÖÜø£Ø×ƒáíóúñÑªº¿®¬½¼¡«»░▒▓│┤ÁÂÀ©╣║╗╝¢¥┐└┴┬├─┼ãÃ╚╔╩╦╠═╬¤ðÐÊËÈ€ÍÎÏ┘┌█▄¦Ì▀ÓßÔÒõÕµþÞÚÛÙý",
     "Ý¯´\u00AD±‗¾¶§÷¸°¨·¹³²■\u00A0"]),
   (["cp860", "860", "csibm860", "ibm860"],
    ["ÇüéâãàÁçêÊèÍÔìÃÂÉÀÈôõòÚùÌÕÜ¢£Ù₧ÓáíóúñÑªº¿Ò¬½¼¡«»░▒▓│┤╡╢╖╕╣║╗╝╜╛┐└┴┬├─┼╞╟╚╔╩╦╠═╬╧╨╤╥╙╘╒╓╫╪┘┌█▄▌▐▀αßΓπΣσµτΦΘΩδ∞",
     "φε∩≡±≥≤⌠⌡÷≈°∙·√ⁿ²■\u00A0"]),
   (["cp861", "861", "cp_is", "csibm861", "ibm861"],
    ["ÇüéâäàåçêëèÐðÞÄÅÉæÆôöþûÝýÖÜø£Ø₧ƒáíóúÁÍÓÚ¿⌐¬½¼¡«»░▒▓│┤╡╢╖╕╣║╗╝╜╛┐└┴┬├─┼╞╟╚╔╩╦╠═╬╧╨╤╥╙╘╒╓╫╪┘┌█▄▌▐▀αßΓπΣσµτΦΘΩδ∞",
     "φε∩≡±≥≤⌠⌡÷≈°∙·√ⁿ²■\u00A0"]),
   (["cp862", "862", "cspc862latinhebrew", "ibm862"],
    ["\u05D0\u05D1\u05D2\u05D3\u05D4\u05D5\u05D6\u05D7\u05D8\u05D9\u05DA\u05DB\u05DC\u05DD\u05DE\u05DF\u05E0\u05E1",
     "\u05E2\u05E3\u05E4\u05E5\u05E6\u05E7\u05E8\u05E9\u05EA¢£¥₧ƒáíóúñÑªº¿⌐¬½¼¡«»░▒▓│┤╡╢╖╕╣║╗╝╜╛┐└┴┬├─┼╞╟╚╔╩╦╠═╬╧╨╤",
     "╥╙╘╒╓╫╪┘┌█▄▌▐▀αßΓπΣσµτΦΘΩδ∞φε∩≡±≥≤⌠⌡÷≈°∙·√ⁿ²■\u00A0"]),
   (["cp863", "863", "csibm863", "ibm863"],
    ["ÇüéâÂà¶çêëèïî‗À§ÉÈÊôËÏûù¤ÔÜ¢£ÙÛƒ¦´óú¨¸³¯Î⌐¬½¼¾«»░▒▓│┤╡╢╖╕╣║╗╝╜╛┐└┴┬├─┼╞╟╚╔╩╦╠═╬╧╨╤╥╙╘╒╓╫╪┘┌█▄▌▐▀αßΓπΣσµτΦΘΩδ∞",
     "φε∩≡±≥≤⌠⌡÷≈°∙·√ⁿ²■\u00A0"]),
   (["cp865", "865", "csibm865", "ibm865"],
    ["ÇüéâäàåçêëèïîìÄÅÉæÆôöòûùÿÖÜø£Ø₧ƒáíóúñÑªº¿⌐¬½¼¡«¤░▒▓│┤╡╢╖╕╣║╗╝╜╛┐└┴┬├─┼╞╟╚╔╩╦╠═╬╧╨╤╥╙╘╒╓╫╪┘┌█▄▌▐▀αßΓπΣσµτΦΘΩδ∞",
     "φε∩≡±≥≤⌠⌡÷≈°∙·√ⁿ²■\u00A0"]),
   (["cp866", "866", "csibm866", "ibm866"],
    ["АБВГДЕЖЗИЙКЛМНОПРСТУФХЦЧШЩЪЫЬЭЮЯабвгдежзийклмноп░▒▓│┤╡╢╖╕╣║╗╝╜╛┐└┴┬├─┼╞╟╚╔╩╦╠═╬╧╨╤╥╙╘╒╓╫╪┘┌█▄▌▐▀рстуфхцчшщъыь",
     "эюяЁёЄєЇїЎў°∙·√№¤■\u00A0"]),
   (["cp869", "869", "cp_gr", "csibm869", "ibm869"],
    ["\uFFFE\uFFFE\uFFFE\uFFFE\uFFFE\uFFFEΆ\uFFFE·¬¦‘’Έ―ΉΊΪΌ\uFFFE\uFFFEΎΫ©Ώ²³ά£έήίϊΐόύΑΒΓΔΕΖΗ½ΘΙ«»░▒▓│┤ΚΛΜΝ╣║╗╝ΞΟ┐",
     "└┴┬├─┼ΠΡ╚╔╩╦╠═╬ΣΤΥΦΧΨΩαβγ┘┌█▄δε▀ζηθικλμνξοπρσςτ΄\u00AD±υφχ§ψ΅°¨ωϋΰώ■\u00A0"]),
   (["cp874"],
    ["€\uFFFE\uFFFE\uFFFE\uFFFE…\uFFFE\uFFFE\uFFFE\uFFFE\uFFFE\uFFFE\uFFFE\uFFFE\uFFFE\uFFFE\uFFFE‘’“”•–—\uFFFE",
     "\uFFFE\uFFFE\uFFFE\uFFFE\uFFFE\uFFFE\uFFFE\u00A0กขฃคฅฆงจฉชซฌญฎฏฐฑฒณดตถทธนบปผฝพฟภมยรฤลฦวศษสหฬอฮฯะัาำิีึื\u0E38",
     "\u0E39\u0E3A\uFFFE\uFFFE\uFFFE\uFFFE฿เแโใไๅๆ็\u0E48\u0E49\u0E4A\u0E4B์ํ๎๏๐๑๒๓๔๕๖๗๘๙๚๛\uFFFE\uFFFE\uFFFE\uFFFE"]),
   (["hp_roman8", "roman8", "r8", "csHPRoman8", "cp1051", "ibm1051"],
    ["\u0080\u0081\u0082\u0083\u0084\u0085\u0086\u0087\u0088\u0089\u008A\u008B\u008C\u008D\u008E\u008F\u0090\u0091",
     "\u0092\u0093\u0094\u0095\u0096\u0097\u0098\u0099\u009A\u009B\u009C\u009D\u009E\u009F\u00A0ÀÂÈÊËÎÏ´ˋˆ¨˜ÙÛ₤¯Ýý°",
     "ÇçÑñ¡¿¤£¥§ƒ¢âêôûáéóúàèòùäëöüÅîØÆåíøæÄìÖÜÉïßÔÁÃãÐðÍÌÓÒÕõŠšÚŸÿÞþ·µ¶¾—¼½ªº«■»±\uFFFE"]),
   (["iso8859_10", "csisolatin6", "iso_8859_10", "iso_8859_10_1992", "iso_ir_157", "l6", "latin6"],
    ["\u0080\u0081\u0082\u0083\u0084\u0085\u0086\u0087\u0088\u0089\u008A\u008B\u008C\u008D\u008E\u008F\u0090\u0091",
     "\u0092\u0093\u0094\u0095\u0096\u0097\u0098\u0099\u009A\u009B\u009C\u009D\u009E\u009F\u00A0ĄĒĢĪĨĶ§ĻĐŠŦŽ\u00ADŪ",
     "Ŋ°ąēģīĩķ·ļđšŧž―ūŋĀÁÂÃÄÅÆĮČÉĘËĖÍÎÏÐŅŌÓÔÕÖŨØŲÚÛÜÝÞßāáâãäåæįčéęëėíîïðņōóôõöũøųúûüýþĸ"]),
   (["iso8859_11", "thai", "iso_8859_11", "iso_8859_11_2001"],
    ["\u0080\u0081\u0082\u0083\u0084\u0085\u0086\u0087\u0088\u0089\u008A\u008B\u008C\u008D\u008E\u008F\u0090\u0091",
     "\u0092\u0093\u0094\u0095\u0096\u0097\u0098\u0099\u009A\u009B\u009C\u009D\u009E\u009F\u00A0กขฃคฅฆงจฉชซฌญฎฏฐฑฒณ",
     "ดตถทธนบปผฝพฟภมยรฤลฦวศษสหฬอฮฯะัาำิีึื\u0E38\u0E39\u0E3A\uFFFE\uFFFE\uFFFE\uFFFE฿เแโใไๅๆ็\u0E48\u0E49\u0E4A",
     "\u0E4B์ํ๎๏๐๑๒๓๔๕๖๗๘๙๚๛\uFFFE\uFFFE\uFFFE\uFFFE"]),
   (["iso8859_13", "iso_8859_13", "l7", "latin7"],
    ["\u0080\u0081\u0082\u0083\u0084\u0085\u0086\u0087\u0088\u0089\u008A\u008B\u008C\u008D\u008E\u008F\u0090\u0091",
     "\u0092\u0093\u0094\u0095\u0096\u0097\u0098\u0099\u009A\u009B\u009C\u009D\u009E\u009F\u00A0”¢£¤„¦§Ø©Ŗ«¬\u00AD®",
     "Æ°±²³“µ¶·ø¹ŗ»¼½¾æĄĮĀĆÄÅĘĒČÉŹĖĢĶĪĻŠŃŅÓŌÕÖ×ŲŁŚŪÜŻŽßąįāćäåęēčéźėģķīļšńņóōõö÷ųłśūüżž’"]),
   (["iso8859_14", "iso_8859_14", "iso_8859_14_1998", "iso_celtic", "iso_ir_199", "l8", "latin8"],
    ["\u0080\u0081\u0082\u0083\u0084\u0085\u0086\u0087\u0088\u0089\u008A\u008B\u008C\u008D\u008E\u008F\u0090\u0091",
     "\u0092\u0093\u0094\u0095\u0096\u0097\u0098\u0099\u009A\u009B\u009C\u009D\u009E\u009F\u00A0Ḃḃ£ĊċḊ§Ẁ©ẂḋỲ\u00AD®",
     "ŸḞḟĠġṀṁ¶ṖẁṗẃṠỳẄẅṡÀÁÂÃÄÅÆÇÈÉÊËÌÍÎÏŴÑÒÓÔÕÖṪØÙÚÛÜÝŶßàáâãäåæçèéêëìíîïŵñòóôõöṫøùúûüýŷÿ"]),
   (["iso8859_15", "iso_8859_15", "l9", "latin9"],
    ["\u0080\u0081\u0082\u0083\u0084\u0085\u0086\u0087\u0088\u0089\u008A\u008B\u008C\u008D\u008E\u008F\u0090\u0091",
     "\u0092\u0093\u0094\u0095\u0096\u0097\u0098\u0099\u009A\u009B\u009C\u009D\u009E\u009F\u00A0¡¢£€¥Š§š©ª«¬\u00AD®",
     "¯°±²³Žµ¶·ž¹º»ŒœŸ¿ÀÁÂÃÄÅÆÇÈÉÊËÌÍÎÏÐÑÒÓÔÕÖ×ØÙÚÛÜÝÞßàáâãäåæçèéêëìíîïðñòóôõö÷øùúûüýþÿ"]),
   (["iso8859_16", "iso_8859_16", "iso_8859_16_2001", "iso_ir_226", "l10", "latin10"],
    ["\u0080\u0081\u0082\u0083\u0084\u0085\u0086\u0087\u0088\u0089\u008A\u008B\u008C\u008D\u008E\u008F\u0090\u0091",
     "\u0092\u0093\u0094\u0095\u0096\u0097\u0098\u0099\u009A\u009B\u009C\u009D\u009E\u009F\u00A0ĄąŁ€„Š§š©Ș«Ź\u00ADź",
     "Ż°±ČłŽ”¶·žčș»ŒœŸżÀÁÂĂÄĆÆÇÈÉÊËÌÍÎÏĐŃÒÓÔŐÖŚŰÙÚÛÜĘȚßàáâăäćæçèéêëìíîïđńòóôőöśűùúûüęțÿ"]),
   (["iso8859_2", "csisolatin2", "iso_8859_2", "iso_8859_2_1987", "iso_ir_101", "l2", "latin2"],
    ["\u0080\u0081\u0082\u0083\u0084\u0085\u0086\u0087\u0088\u0089\u008A\u008B\u008C\u008D\u008E\u008F\u0090\u0091",
     "\u0092\u0093\u0094\u0095\u0096\u0097\u0098\u0099\u009A\u009B\u009C\u009D\u009E\u009F\u00A0Ą˘Ł¤ĽŚ§¨ŠŞŤŹ\u00ADŽ",
     "Ż°ą˛ł´ľśˇ¸šşťź˝žżŔÁÂĂÄĹĆÇČÉĘËĚÍÎĎĐŃŇÓÔŐÖ×ŘŮÚŰÜÝŢßŕáâăäĺćçčéęëěíîďđńňóôőö÷řůúűüýţ˙"]),
   (["iso8859_3", "csisolatin3", "iso_8859_3", "iso_8859_3_1988", "iso_ir_109", "l3", "latin3"],
    ["\u0080\u0081\u0082\u0083\u0084\u0085\u0086\u0087\u0088\u0089\u008A\u008B\u008C\u008D\u008E\u008F\u0090\u0091",
     "\u0092\u0093\u0094\u0095\u0096\u0097\u0098\u0099\u009A\u009B\u009C\u009D\u009E\u009F\u00A0Ħ˘£¤\uFFFEĤ§¨İŞĞĴ",
     "\u00AD\uFFFEŻ°ħ²³´µĥ·¸ışğĵ½\uFFFEżÀÁÂ\uFFFEÄĊĈÇÈÉÊËÌÍÎÏ\uFFFEÑÒÓÔĠÖ×ĜÙÚÛÜŬŜßàáâ\uFFFEäċĉçèéêëìíîï\uFFFEñòóôġö",
     "÷ĝùúûüŭŝ˙"]),
   (["iso8859_4", "csisolatin4", "iso_8859_4", "iso_8859_4_1988", "iso_ir_110", "l4", "latin4"],
    ["\u0080\u0081\u0082\u0083\u0084\u0085\u0086\u0087\u0088\u0089\u008A\u008B\u008C\u008D\u008E\u008F\u0090\u0091",
     "\u0092\u0093\u0094\u0095\u0096\u0097\u0098\u0099\u009A\u009B\u009C\u009D\u009E\u009F\u00A0ĄĸŖ¤ĨĻ§¨ŠĒĢŦ\u00ADŽ",
     "¯°ą˛ŗ´ĩļˇ¸šēģŧŊžŋĀÁÂÃÄÅÆĮČÉĘËĖÍÎĪĐŅŌĶÔÕÖ×ØŲÚÛÜŨŪßāáâãäåæįčéęëėíîīđņōķôõö÷øųúûüũū˙"]),
   (["iso8859_5", "csisolatincyrillic", "cyrillic", "iso_8859_5", "iso_8859_5_1988", "iso_ir_144"],
    ["\u0080\u0081\u0082\u0083\u0084\u0085\u0086\u0087\u0088\u0089\u008A\u008B\u008C\u008D\u008E\u008F\u0090\u0091",
     "\u0092\u0093\u0094\u0095\u0096\u0097\u0098\u0099\u009A\u009B\u009C\u009D\u009E\u009F\u00A0ЁЂЃЄЅІЇЈЉЊЋЌ\u00ADЎ",
     "ЏАБВГДЕЖЗИЙКЛМНОПРСТУФХЦЧШЩЪЫЬЭЮЯабвгдежзийклмнопрстуфхцчшщъыьэюя№ёђѓєѕіїјљњћќ§ўџ"]),
   (["iso8859_6", "arabic", "asmo_708", "csisolatinarabic", "ecma_114", "iso_8859_6", "iso_8859_6_1987", "iso_ir_127"],
    ["\u0080\u0081\u0082\u0083\u0084\u0085\u0086\u0087\u0088\u0089\u008A\u008B\u008C\u008D\u008E\u008F\u0090\u0091",
     "\u0092\u0093\u0094\u0095\u0096\u0097\u0098\u0099\u009A\u009B\u009C\u009D\u009E\u009F\u00A0\uFFFE\uFFFE\uFFFE¤",
     "\uFFFE\uFFFE\uFFFE\uFFFE\uFFFE\uFFFE\uFFFE،\u00AD\uFFFE\uFFFE\uFFFE\uFFFE\uFFFE\uFFFE\uFFFE\uFFFE\uFFFE\uFFFE",
     "\uFFFE\uFFFE\uFFFE\u061B\uFFFE\uFFFE\uFFFE\u061F\uFFFE\u0621\u0622\u0623\u0624\u0625\u0626\u0627\u0628\u0629",
     "\u062A\u062B\u062C\u062D\u062E\u062F\u0630\u0631\u0632\u0633\u0634\u0635\u0636\u0637\u0638\u0639\u063A\uFFFE",
     "\uFFFE\uFFFE\uFFFE\uFFFE\u0640\u0641\u0642\u0643\u0644\u0645\u0646\u0647\u0648\u0649\u064A\u064B\u064C\u064D",
     "\u064E\u064F\u0650\u0651\u0652\uFFFE\uFFFE\uFFFE\uFFFE\uFFFE\uFFFE\uFFFE\uFFFE\uFFFE\uFFFE\uFFFE\uFFFE\uFFFE"]),
   (["iso8859_7", "csisolatingreek", "ecma_118", "elot_928", "greek", "greek8", "iso_8859_7", "iso_8859_7_1987",
     "iso_ir_126"],
    ["\u0080\u0081\u0082\u0083\u0084\u0085\u0086\u0087\u0088\u0089\u008A\u008B\u008C\u008D\u008E\u008F\u0090\u0091",
     "\u0092\u0093\u0094\u0095\u0096\u0097\u0098\u0099\u009A\u009B\u009C\u009D\u009E\u009F\u00A0‘’£€₯¦§¨©ͺ«¬\u00AD",
     "\uFFFE―°±²³΄΅Ά·ΈΉΊ»Ό½ΎΏΐΑΒΓΔΕΖΗΘΙΚΛΜΝΞΟΠΡ\uFFFEΣΤΥΦΧΨΩΪΫάέήίΰαβγδεζηθικλμνξοπρςστυφχψωϊϋόύώ\uFFFE"]),
   (["iso8859_8", "csisolatinhebrew", "hebrew", "iso_8859_8", "iso_8859_8_1988", "iso_ir_138"],
    ["\u0080\u0081\u0082\u0083\u0084\u0085\u0086\u0087\u0088\u0089\u008A\u008B\u008C\u008D\u008E\u008F\u0090\u0091",
     "\u0092\u0093\u0094\u0095\u0096\u0097\u0098\u0099\u009A\u009B\u009C\u009D\u009E\u009F\u00A0\uFFFE¢£¤¥¦§¨©×«¬",
     "\u00AD®¯°±²³´µ¶·¸¹÷»¼½¾\uFFFE\uFFFE\uFFFE\uFFFE\uFFFE\uFFFE\uFFFE\uFFFE\uFFFE\uFFFE\uFFFE\uFFFE\uFFFE\uFFFE",
     "\uFFFE\uFFFE\uFFFE\uFFFE\uFFFE\uFFFE\uFFFE\uFFFE\uFFFE\uFFFE\uFFFE\uFFFE\uFFFE\uFFFE\uFFFE\uFFFE\uFFFE\uFFFE‗",
     "\u05D0\u05D1\u05D2\u05D3\u05D4\u05D5\u05D6\u05D7\u05D8\u05D9\u05DA\u05DB\u05DC\u05DD\u05DE\u05DF\u05E0\u05E1",
     "\u05E2\u05E3\u05E4\u05E5\u05E6\u05E7\u05E8\u05E9\u05EA\uFFFE\uFFFE\u200E\u200F\uFFFE"]),
   (["iso8859_9", "csisolatin5", "iso_8859_9", "iso_8859_9_1989", "iso_ir_148", "l5", "latin5"],
    ["\u0080\u0081\u0082\u0083\u0084\u0085\u0086\u0087\u0088\u0089\u008A\u008B\u008C\u008D\u008E\u008F\u0090\u0091",
     "\u0092\u0093\u0094\u0095\u0096\u0097\u0098\u0099\u009A\u009B\u009C\u009D\u009E\u009F\u00A0¡¢£¤¥¦§¨©ª«¬\u00AD®",
     "¯°±²³´µ¶·¸¹º»¼½¾¿ÀÁÂÃÄÅÆÇÈÉÊËÌÍÎÏĞÑÒÓÔÕÖ×ØÙÚÛÜİŞßàáâãäåæçèéêëìíîïğñòóôõö÷øùúûüışÿ"]),
   (["koi8_r", "cskoi8r"],
    ["─│┌┐└┘├┤┬┴┼▀▄█▌▐░▒▓⌠■∙√≈≤≥\u00A0⌡°²·÷═║╒ё╓╔╕╖╗╘╙╚╛╜╝╞╟╠╡Ё╢╣╤╥╦╧╨╩╪╫╬©юабцдефгхийклмнопярстужвьызшэщчъЮАБЦДЕФГ",
     "ХИЙКЛМНОПЯРСТУЖВЬЫЗШЭЩЧЪ"]),
   (["koi8_t"],
    ["қғ‚Ғ„…†‡\uFFFE‰ҳ‹ҲҷҶ\uFFFEҚ‘’“”•–—\uFFFE™\uFFFE›\uFFFE\uFFFE\uFFFE\uFFFE\uFFFEӯӮё¤ӣ¦§\uFFFE\uFFFE\uFFFE«¬",
     "\u00AD®\uFFFE°±²Ё\uFFFEӢ¶·\uFFFE№\uFFFE»\uFFFE\uFFFE\uFFFE©юабцдефгхийклмнопярстужвьызшэщчъЮАБЦДЕФГХИЙКЛМНОПЯ",
     "РСТУЖВЬЫЗШЭЩЧЪ"]),
   (["koi8_u"],
    ["─│┌┐└┘├┤┬┴┼▀▄█▌▐░▒▓⌠■∙√≈≤≥\u00A0⌡°²·÷═║╒ёє╔ії╗╘╙╚╛ґ╝╞╟╠╡ЁЄ╣ІЇ╦╧╨╩╪Ґ╬©юабцдефгхийклмнопярстужвьызшэщчъЮАБЦДЕФГ",
     "ХИЙКЛМНОПЯРСТУЖВЬЫЗШЭЩЧЪ"]),
   (["kz1048", "kz_1048", "rk1048", "strk1048_2002"],
    ["ЂЃ‚ѓ„…†‡€‰Љ‹ЊҚҺЏђ‘’“”•–—\uFFFE™љ›њқһџ\u00A0ҰұӘ¤Ө¦§Ё©Ғ«¬\u00AD®Ү°±Ііөµ¶·ё№ғ»әҢңүАБВГДЕЖЗИЙКЛМНОПРСТУФХЦЧШЩЪЫЬЭ",
     "ЮЯабвгдежзийклмнопрстуфхцчшщъыьэюя"]),
   (["mac_arabic"],
    ["Ä\u00A0ÇÉÑÖÜáàâä\u06BA«çéèêëí…îïñó»ôö÷úùûü !\u0022#$٪&\u0027()*+،-./\u0660\u0661\u0662\u0663\u0664\u0665",
     "\u0666\u0667\u0668\u0669:\u061B<=>\u061F❊\u0621\u0622\u0623\u0624\u0625\u0626\u0627\u0628\u0629\u062A\u062B",
     "\u062C\u062D\u062E\u062F\u0630\u0631\u0632\u0633\u0634\u0635\u0636\u0637\u0638\u0639\u063A[\u005C]^_\u0640",
     "\u0641\u0642\u0643\u0644\u0645\u0646\u0647\u0648\u0649\u064A\u064B\u064C\u064D\u064E\u064F\u0650\u0651\u0652",
     "\u067E\u0679\u0686\u06D5\u06A4\u06AF\u0688\u0691\u007B|\u007D\u0698\u06D2"]),
   (["mac_croatian"],
    ["ÄÅÇÉÑÖÜáàâäãåçéèêëíìîïñóòôöõúùûü†°¢£§•¶ß®Š™´¨≠ŽØ∞±≤≥∆µ∂∑∏š∫ªºΩžø¿¡¬√ƒ≈Ć«Č…\u00A0ÀÃÕŒœĐ—“”‘’÷◊\uF8FF©⁄€‹›Æ»–·‚",
     "„‰ÂćÁčÈÍÎÏÌÓÔđÒÚÛÙıˆ˜¯πË˚¸Êæˇ"]),
   (["mac_cyrillic", "maccyrillic"],
    ["АБВГДЕЖЗИЙКЛМНОПРСТУФХЦЧШЩЪЫЬЭЮЯ†°Ґ£§•¶І®©™Ђђ≠Ѓѓ∞±≤≥іµґЈЄєЇїЉљЊњјЅ¬√ƒ≈∆«»…\u00A0ЋћЌќѕ–—“”‘’÷„ЎўЏџ№Ёёяабвгдежз",
     "ийклмнопрстуфхцчшщъыьэю€"]),
   (["mac_farsi"],
    ["Ä\u00A0ÇÉÑÖÜáàâä\u06BA«çéèêëí…îïñó»ôö÷úùûü !\u0022#$٪&\u0027()*+،-./۰۱۲۳۴۵۶۷۸۹:\u061B<=>\u061F❊\u0621\u0622",
     "\u0623\u0624\u0625\u0626\u0627\u0628\u0629\u062A\u062B\u062C\u062D\u062E\u062F\u0630\u0631\u0632\u0633\u0634",
     "\u0635\u0636\u0637\u0638\u0639\u063A[\u005C]^_\u0640\u0641\u0642\u0643\u0644\u0645\u0646\u0647\u0648\u0649",
     "\u064A\u064B\u064C\u064D\u064E\u064F\u0650\u0651\u0652\u067E\u0679\u0686\u06D5\u06A4\u06AF\u0688\u0691\u007B|",
     "\u007D\u0698\u06D2"]),
   (["mac_greek", "macgreek"],
    ["Ä¹²É³ÖÜ΅àâä΄¨çéèêë£™îï•½‰ôö¦€ùûü†ΓΔΘΛΞΠß®©ΣΪ§≠°·Α±≤≥¥ΒΕΖΗΙΚΜΦΫΨΩάΝ¬ΟΡ≈Τ«»…\u00A0ΥΧΆΈœ–―“”‘’÷ΉΊΌΎέήίόΏύαβψδεφγ",
     "ηιξκλμνοπώρστθωςχυζϊϋΐΰ\u00AD"]),
   (["mac_iceland", "maciceland"],
    ["ÄÅÇÉÑÖÜáàâäãåçéèêëíìîïñóòôöõúùûüÝ°¢£§•¶ß®©™´¨≠ÆØ∞±≤≥¥µ∂∑∏π∫ªºΩæø¿¡¬√ƒ≈∆«»…\u00A0ÀÃÕŒœ–—“”‘’÷◊ÿŸ⁄€ÐðÞþý·‚„‰ÂÊÁ",
     "ËÈÍÎÏÌÓÔ\uF8FFÒÚÛÙıˆ˜¯˘˙˚¸˝˛ˇ"]),
   (["mac_latin2", "maccentraleurope", "mac_centeuro", "maclatin2"],
    ["ÄĀāÉĄÖÜáąČäčĆćéŹźĎíďĒēĖóėôöõúĚěü†°Ę£§•¶ß®©™ę¨≠ģĮįĪ≤≥īĶ∂∑łĻļĽľĹĺŅņŃ¬√ńŇ∆«»…\u00A0ňŐÕőŌ–—“”‘’÷◊ōŔŕŘ‹›řŖŗŠ‚„šŚśÁ",
     "ŤťÍŽžŪÓÔūŮÚůŰűŲųÝýķŻŁżĢˇ"]),
   (["mac_roman", "macintosh", "macroman"],
    ["ÄÅÇÉÑÖÜáàâäãåçéèêëíìîïñóòôöõúùûü†°¢£§•¶ß®©™´¨≠ÆØ∞±≤≥¥µ∂∑∏π∫ªºΩæø¿¡¬√ƒ≈∆«»…\u00A0ÀÃÕŒœ–—“”‘’÷◊ÿŸ⁄€‹›ﬁﬂ‡·‚„‰ÂÊÁ",
     "ËÈÍÎÏÌÓÔ\uF8FFÒÚÛÙıˆ˜¯˘˙˚¸˝˛ˇ"]),
   (["mac_romanian"],
    ["ÄÅÇÉÑÖÜáàâäãåçéèêëíìîïñóòôöõúùûü†°¢£§•¶ß®©™´¨≠ĂȘ∞±≤≥¥µ∂∑∏π∫ªºΩăș¿¡¬√ƒ≈∆«»…\u00A0ÀÃÕŒœ–—“”‘’÷◊ÿŸ⁄€‹›Țț‡·‚„‰ÂÊÁ",
     "ËÈÍÎÏÌÓÔ\uF8FFÒÚÛÙıˆ˜¯˘˙˚¸˝˛ˇ"]),
   (["mac_turkish", "macturkish"],
    ["ÄÅÇÉÑÖÜáàâäãåçéèêëíìîïñóòôöõúùûü†°¢£§•¶ß®©™´¨≠ÆØ∞±≤≥¥µ∂∑∏π∫ªºΩæø¿¡¬√ƒ≈∆«»…\u00A0ÀÃÕŒœ–—“”‘’÷◊ÿŸĞğİıŞş‡·‚„‰ÂÊÁ",
     "ËÈÍÎÏÌÓÔ\uF8FFÒÚÛÙ\uF8A0ˆ˜¯˘˙˚¸˝˛ˇ"]),
   (["palmos"],
    ["€\u0081‚ƒ„…†‡ˆ‰Š‹Œ♦♣♥♠‘’“”•–—˜™š\u009Bœ\u009D\u009EŸ\u00A0¡¢£¤¥¦§¨©ª«¬\u00AD®¯°±²³´µ¶·¸¹º»¼½¾¿ÀÁÂÃÄÅÆÇÈÉÊËÌÍÎ",
     "ÏÐÑÒÓÔÕÖ×ØÙÚÛÜÝÞßàáâãäåæçèéêëìíîïðñòóôõö÷øùúûüýþÿ"]),
   (["ptcp154", "csptcp154", "pt154", "cp154", "cyrillic_asian"],
    ["ҖҒӮғ„…ҶҮҲүҠӢҢҚҺҸҗ‘’“”•–—ҳҷҡӣңқһҹ\u00A0ЎўЈӨҘҰ§Ё©Ә«¬ӯ®Ҝ°ұІіҙө¶·ё№ә»јҪҫҝАБВГДЕЖЗИЙКЛМНОПРСТУФХЦЧШЩЪЫЬЭЮЯабвгдежз",
     "ийклмнопрстуфхцчшщъыьэюя"]),
   (["tis_620", "tis620", "tis_620_0", "tis_620_2529_0", "tis_620_2529_1", "iso_ir_166"],
    ["\u0080\u0081\u0082\u0083\u0084\u0085\u0086\u0087\u0088\u0089\u008A\u008B\u008C\u008D\u008E\u008F\u0090\u0091",
     "\u0092\u0093\u0094\u0095\u0096\u0097\u0098\u0099\u009A\u009B\u009C\u009D\u009E\u009F\uFFFEกขฃคฅฆงจฉชซฌญฎฏฐฑฒณ",
     "ดตถทธนบปผฝพฟภมยรฤลฦวศษสหฬอฮฯะัาำิีึื\u0E38\u0E39\u0E3A\uFFFE\uFFFE\uFFFE\uFFFE฿เแโใไๅๆ็\u0E48\u0E49\u0E4A",
     "\u0E4B์ํ๎๏๐๑๒๓๔๕๖๗๘๙๚๛\uFFFE\uFFFE\uFFFE\uFFFE"])]

/-- The names of code pages that do not agree with ASCII, with all their characters. -/
def codePagesApart : List (List String × List String) :=
  [(["cp037", "037", "csibm037", "ebcdic_cp_ca", "ebcdic_cp_nl", "ebcdic_cp_us", "ebcdic_cp_wt", "ibm037", "ibm039"],
    ["\u0000\u0001\u0002\u0003\u009C\u0009\u0086\u007F\u0097\u008D\u008E\u000B\u000C\u000D\u000E\u000F\u0010\u0011",
     "\u0012\u0013\u009D\u0085\u0008\u0087\u0018\u0019\u0092\u008F\u001C\u001D\u001E\u001F\u0080\u0081\u0082\u0083",
     "\u0084\u000A\u0017\u001B\u0088\u0089\u008A\u008B\u008C\u0005\u0006\u0007\u0090\u0091\u0016\u0093\u0094\u0095",
     "\u0096\u0004\u0098\u0099\u009A\u009B\u0014\u0015\u009E\u001A \u00A0âäàáãåçñ¢.<(+|&éêëèíîïìß!$*);¬-/ÂÄÀÁÃÅÇÑ¦,",
     "%_>?øÉÊËÈÍÎÏÌ\u0060:#@\u0027=\u0022Øabcdefghi«»ðýþ±°jklmnopqrªºæ¸Æ¤µ~stuvwxyz¡¿ÐÝÞ®^£¥·©§¶¼½¾[]¯¨´×\u007BABCD",
     "EFGHI\u00ADôöòóõ\u007DJKLMNOPQR¹ûüùúÿ\u005C÷STUVWXYZ²ÔÖÒÓÕ0123456789³ÛÜÙÚ\u009F"]),
   (["cp1026", "1026", "csibm1026", "ibm1026"],
    ["\u0000\u0001\u0002\u0003\u009C\u0009\u0086\u007F\u0097\u008D\u008E\u000B\u000C\u000D\u000E\u000F\u0010\u0011",
     "\u0012\u0013\u009D\u0085\u0008\u0087\u0018\u0019\u0092\u008F\u001C\u001D\u001E\u001F\u0080\u0081\u0082\u0083",
     "\u0084\u000A\u0017\u001B\u0088\u0089\u008A\u008B\u008C\u0005\u0006\u0007\u0090\u0091\u0016\u0093\u0094\u0095",
     "\u0096\u0004\u0098\u0099\u009A\u009B\u0014\u0015\u009E\u001A \u00A0âäàáãå\u007BñÇ.<(+!&éêëèíîïìßĞİ*);^-/ÂÄÀÁÃ",
     "Å[Ñş,%_>?øÉÊËÈÍÎÏÌı:ÖŞ\u0027=ÜØabcdefghi«»\u007D\u0060¦±°jklmnopqrªºæ¸Æ¤µöstuvwxyz¡¿]$@®¢£¥·©§¶¼½¾¬|¯¨´×çABCD",
     "EFGHI\u00ADô~òóõğJKLMNOPQR¹û\u005Cùúÿü÷STUVWXYZ²Ô#ÒÓÕ0123456789³Û\u0022ÙÚ\u009F"]),
   (["cp1140", "1140", "ibm1140"],
    ["\u0000\u0001\u0002\u0003\u009C\u0009\u0086\u007F\u0097\u008D\u008E\u000B\u000C\u000D\u000E\u000F\u0010\u0011",
     "\u0012\u0013\u009D\u0085\u0008\u0087\u0018\u0019\u0092\u008F\u001C\u001D\u001E\u001F\u0080\u0081\u0082\u0083",
     "\u0084\u000A\u0017\u001B\u0088\u0089\u008A\u008B\u008C\u0005\u0006\u0007\u0090\u0091\u0016\u0093\u0094\u0095",
     "\u0096\u0004\u0098\u0099\u009A\u009B\u0014\u0015\u009E\u001A \u00A0âäàáãåçñ¢.<(+|&éêëèíîïìß!$*);¬-/ÂÄÀÁÃÅÇÑ¦,",
     "%_>?øÉÊËÈÍÎÏÌ\u0060:#@\u0027=\u0022Øabcdefghi«»ðýþ±°jklmnopqrªºæ¸Æ€µ~stuvwxyz¡¿ÐÝÞ®^£¥·©§¶¼½¾[]¯¨´×\u007BABCD",
     "EFGHI\u00ADôöòóõ\u007DJKLMNOPQR¹ûüùúÿ\u005C÷STUVWXYZ²ÔÖÒÓÕ0123456789³ÛÜÙÚ\u009F"]),
   (["cp273", "273", "ibm273", "csibm273"],
    ["\u0000\u0001\u0002\u0003\u009C\u0009\u0086\u007F\u0097\u008D\u008E\u000B\u000C\u000D\u000E\u000F\u0010\u0011",
     "\u0012\u0013\u009D\u0085\u0008\u0087\u0018\u0019\u0092\u008F\u001C\u001D\u001E\u001F\u0080\u0081\u0082\u0083",
     "\u0084\u000A\u0017\u001B\u0088\u0089\u008A\u008B\u008C\u0005\u0006\u0007\u0090\u0091\u0016\u0093\u0094\u0095",
     "\u0096\u0004\u0098\u0099\u009A\u009B\u0014\u0015\u009E\u001A \u00A0â\u007BàáãåçñÄ.<(+!&éêëèíîïì~Ü$*);^-/Â[ÀÁÃ",
     "ÅÇÑö,%_>?øÉÊËÈÍÎÏÌ\u0060:#§\u0027=\u0022Øabcdefghi«»ðýþ±°jklmnopqrªºæ¸Æ¤µßstuvwxyz¡¿ÐÝÞ®¢£¥·©@¶¼½¾¬|‾¨´×äABCD",
     "EFGHI\u00ADô¦òóõüJKLMNOPQR¹û\u007DùúÿÖ÷STUVWXYZ²Ô\u005CÒÓÕ0123456789³Û]ÙÚ\u009F"]),
   (["cp424", "424", "csibm424", "ebcdic_cp_he", "ibm424"],
    ["\u0000\u0001\u0002\u0003\u009C\u0009\u0086\u007F\u0097\u008D\u008E\u000B\u000C\u000D\u000E\u000F\u0010\u0011",
     "\u0012\u0013\u009D\u0085\u0008\u0087\u0018\u0019\u0092\u008F\u001C\u001D\u001E\u001F\u0080\u0081\u0082\u0083",
     "\u0084\u000A\u0017\u001B\u0088\u0089\u008A\u008B\u008C\u0005\u0006\u0007\u0090\u0091\u0016\u0093\u0094\u0095",
     "\u0096\u0004\u0098\u0099\u009A\u009B\u0014\u0015\u009E\u001A \u05D0\u05D1\u05D2\u05D3\u05D4\u05D5\u05D6\u05D7",
     "\u05D8¢.<(+|&\u05D9\u05DA\u05DB\u05DC\u05DD\u05DE\u05DF\u05E0\u05E1!$*);¬-/\u05E2\u05E3\u05E4\u05E5\u05E6",
     "\u05E7\u05E8\u05E9¦,%_>?\uFFFE\u05EA\uFFFE\uFFFE\u00A0\uFFFE\uFFFE\uFFFE‗\u0060:#@\u0027=\u0022\uFFFEabcdefgh",
     "i«»\uFFFE\uFFFE\uFFFE±°jklmnopqr\uFFFE\uFFFE\uFFFE¸\uFFFE¤µ~stuvwxyz\uFFFE\uFFFE\uFFFE\uFFFE\uFFFE®^£¥·©§¶¼½¾",
     "[]¯¨´×\u007BABCDEFGHI\u00AD\uFFFE\uFFFE\uFFFE\uFFFE\uFFFE\u007DJKLMNOPQR¹\uFFFE\uFFFE\uFFFE\uFFFE\uFFFE\u005C",
     "÷STUVWXYZ²\uFFFE\uFFFE\uFFFE\uFFFE\uFFFE0123456789³\uFFFE\uFFFE\uFFFE\uFFFE\u009F"]),
   (["cp500", "500", "csibm500", "ebcdic_cp_be", "ebcdic_cp_ch", "ibm500"],
    ["\u0000\u0001\u0002\u0003\u009C\u0009\u0086\u007F\u0097\u008D\u008E\u000B\u000C\u000D\u000E\u000F\u0010\u0011",
     "\u0012\u0013\u009D\u0085\u0008\u0087\u0018\u0019\u0092\u008F\u001C\u001D\u001E\u001F\u0080\u0081\u0082\u0083",
     "\u0084\u000A\u0017\u001B\u0088\u0089\u008A\u008B\u008C\u0005\u0006\u0007\u0090\u0091\u0016\u0093\u0094\u0095",
     "\u0096\u0004\u0098\u0099\u009A\u009B\u0014\u0015\u009E\u001A \u00A0âäàáãåçñ[.<(+!&éêëèíîïìß]$*);^-/ÂÄÀÁÃÅÇÑ¦,",
     "%_>?øÉÊËÈÍÎÏÌ\u0060:#@\u0027=\u0022Øabcdefghi«»ðýþ±°jklmnopqrªºæ¸Æ¤µ~stuvwxyz¡¿ÐÝÞ®¢£¥·©§¶¼½¾¬|¯¨´×\u007BABCD",
     "EFGHI\u00ADôöòóõ\u007DJKLMNOPQR¹ûüùúÿ\u005C÷STUVWXYZ²ÔÖÒÓÕ0123456789³ÛÜÙÚ\u009F"]),
   (["cp864", "864", "csibm864", "ibm864"],
    ["\u0000\u0001\u0002\u0003\u0004\u0005\u0006\u0007\u0008\u0009\u000A\u000B\u000C\u000D\u000E\u000F\u0010\u0011",
     "\u0012\u0013\u0014\u0015\u0016\u0017\u0018\u0019\u001A\u001B\u001C\u001D\u001E\u001F !\u0022#$٪&\u0027()*+,-.",
     "/0123456789:;<=>?@ABCDEFGHIJKLMNOPQRSTUVWXYZ[\u005C]^_\u0060abcdefghijklmnopqrstuvwxyz\u007B|\u007D~\u007F°·∙",
     "√▒─│┼┤┬├┴┐┌└┘β∞φ±½¼≈«»\uFEF7\uFEF8\uFFFE\uFFFE\uFEFB\uFEFC\uFFFE\u00A0\u00AD\uFE82£¤\uFE84\uFFFE\uFFFE\uFE8E",
     "\uFE8F\uFE95\uFE99،\uFE9D\uFEA1\uFEA5\u0660\u0661\u0662\u0663\u0664\u0665\u0666\u0667\u0668\u0669\uFED1\u061B",
     "\uFEB1\uFEB5\uFEB9\u061F¢\uFE80\uFE81\uFE83\uFE85\uFECA\uFE8B\uFE8D\uFE91\uFE93\uFE97\uFE9B\uFE9F\uFEA3\uFEA7",
     "\uFEA9\uFEAB\uFEAD\uFEAF\uFEB3\uFEB7\uFEBB\uFEBF\uFEC1\uFEC5\uFECB\uFECF¦¬÷×\uFEC9\u0640\uFED3\uFED7\uFEDB",
     "\uFEDF\uFEE3\uFEE7\uFEEB\uFEED\uFEEF\uFEF3\uFEBD\uFECC\uFECE\uFECD\uFEE1\uFE7D\u0651\uFEE5\uFEE9\uFEEC\uFEF0",
     "\uFEF2\uFED0\uFED5\uFEF5\uFEF6\uFEDD\uFED9\uFEF1■\uFFFE"]),
   (["cp875"],
    ["\u0000\u0001\u0002\u0003\u009C\u0009\u0086\u007F\u0097\u008D\u008E\u000B\u000C\u000D\u000E\u000F\u0010\u0011",
     "\u0012\u0013\u009D\u0085\u0008\u0087\u0018\u0019\u0092\u008F\u001C\u001D\u001E\u001F\u0080\u0081\u0082\u0083",
     "\u0084\u000A\u0017\u001B\u0088\u0089\u008A\u008B\u008C\u0005\u0006\u0007\u0090\u0091\u0016\u0093\u0094\u0095",
     "\u0096\u0004\u0098\u0099\u009A\u009B\u0014\u0015\u009E\u001A ΑΒΓΔΕΖΗΘΙ[.<(+!&ΚΛΜΝΞΟΠΡΣ]$*);^-/ΤΥΦΧΨΩΪΫ|,%_>?¨",
     "ΆΈΉ\u00A0ΊΌΎΏ\u0060:#@\u0027=\u0022΅abcdefghiαβγδεζ°jklmnopqrηθικλμ´~stuvwxyzνξοπρσ£άέήϊίόύϋώςτυφχψ\u007BABCD",
     "EFGHI\u00ADωΐΰ‘―\u007DJKLMNOPQR±½\u001A·’¦\u005C\u001ASTUVWXYZ²§\u001A\u001A«¬0123456789³©\u001A\u001A»\u009F"])]

end ReportCard.Text
