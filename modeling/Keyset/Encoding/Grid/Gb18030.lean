import Keyset.Encoding.Grid

/-!
# Keyset — GBK and GB 18030

What GBK and GB 18030 have besides the characters of GB 2312 and the Chinese characters that
follow each other by code, in rows of 190.
-/

namespace Keyset.Grid

/-- The symbols of GBK; some are others than in GB 2312. -/
def gbk : Grid where
  runs :=
    [(6179, ["·"]),
      (6185, ["—"]),
      (6366, ["ⅰⅱⅲⅳⅴⅵⅶⅷⅸⅹ"]),
      (7189, ["︵︶︹︺︿﹀︽︾﹁﹂﹃﹄\ufffe\ufffe︻︼︷︸︱\ufffe︳︴"]),
      (7410,
       ["\u02ca\u02cb\u02d9–―‥‵℅℉↖↗↘↙∕∟∣≒≦≧⊿═║╒╓╔╕╖╗╘╙╚╛╜╝╞╟╠╡╢╣╤╥╦╧╨╩╪╫╬╭╮╯╰╱╲╳▁▂▃▄▅▆▇█▉▊▋▌▍▎",
        "▏▓▔▕▼▽◢◣◤◥☉⊕〒〝〞"]),
      (7532, ["ɑ\ufffeńň\ufffeɡ"]),
      (7600,
       ["〡〢〣〤〥〦〧〨〩㊣㎎㎏㎜㎝㎞㎡㏄㏎㏑㏒㏕︰￢￤\ufffe℡㈱\ufffe‐\ufffe\ufffe\ufffeー\u309b\u309cヽヾ〆ゝゞ﹉﹊﹋﹌﹍﹎﹏﹐﹑﹒",
        "﹔﹕﹖﹗﹙﹚﹛﹜﹝﹞﹟﹠﹡﹢﹣﹤﹥﹦﹨﹩﹪﹫"]),
      (7685, ["〇"])]

/-- The compatibility characters at the end of GBK. -/
def gbkLast : List Char :=
  ['\uf92c', '\uf979', '\uf995', '\uf9e7', '\uf9f1', '\ufa0c', '\ufa0d', '\ufa0e', '\ufa0f',
    '\ufa11', '\ufa13', '\ufa14', '\ufa18', '\ufa1f', '\ufa20', '\ufa21', '\ufa23', '\ufa24',
    '\ufa27', '\ufa28', '\ufa29']

/-- The characters that GB 18030 adds with two bytes. -/
def gb18030 : Grid where
  runs :=
    [(6432, ["€"]),
      (7536, ["ǹ"]),
      (7672, ["〾⿰⿱⿲⿳⿴⿵⿶⿷⿸⿹⿺⿻"]),
      (23766,
       ["⺁\ufffe\ufffe\ufffe⺄㑳㑇⺈⺋\ufffe㖞㘚㘎⺌⺗㥮㤘\ufffe㧏㧟㩳㧐\ufffe\ufffe㭎㱮㳠⺧\ufffe\ufffe⺪䁖䅟⺮䌷⺳⺶⺷",
        "\ufffe䎱䎬⺻䏝䓖䙡䙌\ufffe䜣䜩䝼䞍⻊䥇䥺䥽䦂䦃䦅䦆䦟䦛䦷䦶\ufffe\ufffe䲣䲟䲠䲡䱷䲢䴓䴔䴕䴖䴗䴘䴙䶮"])]

/-- Places without a character, the code of the first and how many there are: they stand for
private characters. -/
def gb18030Private : List (Nat × Nat × Nat) :=
  [(6376, 0xe766, 6), (6433, 0xe76d, 1), (6444, 0xe76e, 2), (6458, 0xe770, 2),
    (6829, 0xe772, 11), (7022, 0xe77d, 8), (7150, 0xe785, 8), (7182, 0xe78d, 7),
    (7201, 0xe794, 2), (7208, 0xe796, 1), (7211, 0xe797, 9), (7349, 0xe7a0, 15),
    (7397, 0xe7af, 13), (7495, 0xe7bc, 11), (7533, 0xe7c7, 1), (7538, 0xe7c9, 4),
    (7579, 0xe7cd, 21), (7624, 0xe7e2, 1), (7627, 0xe7e3, 1), (7629, 0xe7e4, 3),
    (7686, 0xe7f4, 13), (7775, 0xe801, 15), (16525, 0xe810, 5), (23767, 0xe816, 3),
    (23775, 0xe81e, 1), (23783, 0xe826, 1), (23788, 0xe82b, 2), (23794, 0xe831, 2),
    (23804, 0xe83b, 1), (23812, 0xe843, 1), (23829, 0xe854, 2), (23845, 0xe864, 1)]


end Keyset.Grid
