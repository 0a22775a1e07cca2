import Mathlib.Data.List.Forall2
import ZaloBot.TextOffsets

/-!
# Letter case

`str::to_lowercase` and `str::to_uppercase` on lists of characters.  The case
mappings of Unicode 17 are kept as runs of letters whose counterparts lie at the
same distances; one letter has two lowercase characters, and a table lists the
letters with several uppercase ones.  A capital sigma is written in two ways in
lowercase; how it is written at a place in a text is a parameter.
-/

namespace ZaloBot

namespace RustText

/-- The letters `first`, `first + step` and so on up to `last`, whose
counterparts begin at `target`. -/
structure CaseRun where
  first : Nat
  last : Nat
  step : Nat
  target : Nat
deriving DecidableEq, Repr

def CaseRun.covers (run : CaseRun) (code : Nat) : Bool :=
  Nat.ble run.first code && Nat.ble code run.last &&
    Nat.beq ((code - run.first) % run.step) 0

/-- The counterpart of a code point, which is itself outside all runs. -/
def counterpart (runs : List CaseRun) (code : Nat) : Nat :=
  match runs.find? (·.covers code) with
  | none => code
  | some run => run.target + (code - run.first)

def lowercaseRuns : List CaseRun :=
  [⟨65, 90, 1, 97⟩, ⟨192, 214, 1, 224⟩, ⟨216, 222, 1, 248⟩,
    ⟨256, 302, 2, 257⟩, ⟨306, 310, 2, 307⟩, ⟨313, 327, 2, 314⟩,
    ⟨330, 374, 2, 331⟩, ⟨376, 376, 1, 255⟩, ⟨377, 381, 2, 378⟩,
    ⟨385, 385, 1, 595⟩, ⟨386, 388, 2, 387⟩, ⟨390, 390, 1, 596⟩,
    ⟨391, 391, 1, 392⟩, ⟨393, 394, 1, 598⟩, ⟨395, 395, 1, 396⟩,
    ⟨398, 398, 1, 477⟩, ⟨399, 399, 1, 601⟩, ⟨400, 400, 1, 603⟩,
    ⟨401, 401, 1, 402⟩, ⟨403, 403, 1, 608⟩, ⟨404, 404, 1, 611⟩,
    ⟨406, 406, 1, 617⟩, ⟨407, 407, 1, 616⟩, ⟨408, 408, 1, 409⟩,
    ⟨412, 412, 1, 623⟩, ⟨413, 413, 1, 626⟩, ⟨415, 415, 1, 629⟩,
    ⟨416, 420, 2, 417⟩, ⟨422, 422, 1, 640⟩, ⟨423, 423, 1, 424⟩,
    ⟨425, 425, 1, 643⟩, ⟨428, 428, 1, 429⟩, ⟨430, 430, 1, 648⟩,
    ⟨431, 431, 1, 432⟩, ⟨433, 434, 1, 650⟩, ⟨435, 437, 2, 436⟩,
    ⟨439, 439, 1, 658⟩, ⟨440, 440, 1, 441⟩, ⟨444, 444, 1, 445⟩,
    ⟨452, 452, 1, 454⟩, ⟨453, 453, 1, 454⟩, ⟨455, 455, 1, 457⟩,
    ⟨456, 456, 1, 457⟩, ⟨458, 458, 1, 460⟩, ⟨459, 475, 2, 460⟩,
    ⟨478, 494, 2, 479⟩, ⟨497, 497, 1, 499⟩, ⟨498, 500, 2, 499⟩,
    ⟨502, 502, 1, 405⟩, ⟨503, 503, 1, 447⟩, ⟨504, 542, 2, 505⟩,
    ⟨544, 544, 1, 414⟩, ⟨546, 562, 2, 547⟩, ⟨570, 570, 1, 11365⟩,
    ⟨571, 571, 1, 572⟩, ⟨573, 573, 1, 410⟩, ⟨574, 574, 1, 11366⟩,
    ⟨577, 577, 1, 578⟩, ⟨579, 579, 1, 384⟩, ⟨580, 580, 1, 649⟩,
    ⟨581, 581, 1, 652⟩, ⟨582, 590, 2, 583⟩, ⟨880, 882, 2, 881⟩,
    ⟨886, 886, 1, 887⟩, ⟨895, 895, 1, 1011⟩, ⟨902, 902, 1, 940⟩,
    ⟨904, 906, 1, 941⟩, ⟨908, 908, 1, 972⟩, ⟨910, 911, 1, 973⟩,
    ⟨913, 929, 1, 945⟩, ⟨931, 939, 1, 963⟩, ⟨975, 975, 1, 983⟩,
    ⟨984, 1006, 2, 985⟩, ⟨1012, 1012, 1, 952⟩, ⟨1015, 1015, 1, 1016⟩,
    ⟨1017, 1017, 1, 1010⟩, ⟨1018, 1018, 1, 1019⟩, ⟨1021, 1023, 1, 891⟩,
    ⟨1024, 1039, 1, 1104⟩, ⟨1040, 1071, 1, 1072⟩, ⟨1120, 1152, 2, 1121⟩,
    ⟨1162, 1214, 2, 1163⟩, ⟨1216, 1216, 1, 1231⟩, ⟨1217, 1229, 2, 1218⟩,
    ⟨1232, 1326, 2, 1233⟩, ⟨1329, 1366, 1, 1377⟩, ⟨4256, 4293, 1, 11520⟩,
    ⟨4295, 4295, 1, 11559⟩, ⟨4301, 4301, 1, 11565⟩, ⟨5024, 5103, 1, 43888⟩,
    ⟨5104, 5109, 1, 5112⟩, ⟨7305, 7305, 1, 7306⟩, ⟨7312, 7354, 1, 4304⟩,
    ⟨7357, 7359, 1, 4349⟩, ⟨7680, 7828, 2, 7681⟩, ⟨7838, 7838, 1, 223⟩,
    ⟨7840, 7934, 2, 7841⟩, ⟨7944, 7951, 1, 7936⟩, ⟨7960, 7965, 1, 7952⟩,
    ⟨7976, 7983, 1, 7968⟩, ⟨7992, 7999, 1, 7984⟩, ⟨8008, 8013, 1, 8000⟩,
    ⟨8025, 8031, 2, 8017⟩, ⟨8040, 8047, 1, 8032⟩, ⟨8072, 8079, 1, 8064⟩,
    ⟨8088, 8095, 1, 8080⟩, ⟨8104, 8111, 1, 8096⟩, ⟨8120, 8121, 1, 8112⟩,
    ⟨8122, 8123, 1, 8048⟩, ⟨8124, 8124, 1, 8115⟩, ⟨8136, 8139, 1, 8050⟩,
    ⟨8140, 8140, 1, 8131⟩, ⟨8152, 8153, 1, 8144⟩, ⟨8154, 8155, 1, 8054⟩,
    ⟨8168, 8169, 1, 8160⟩, ⟨8170, 8171, 1, 8058⟩, ⟨8172, 8172, 1, 8165⟩,
    ⟨8184, 8185, 1, 8056⟩, ⟨8186, 8187, 1, 8060⟩, ⟨8188, 8188, 1, 8179⟩,
    ⟨8486, 8486, 1, 969⟩, ⟨8490, 8490, 1, 107⟩, ⟨8491, 8491, 1, 229⟩,
    ⟨8498, 8498, 1, 8526⟩, ⟨8544, 8559, 1, 8560⟩, ⟨8579, 8579, 1, 8580⟩,
    ⟨9398, 9423, 1, 9424⟩, ⟨11264, 11311, 1, 11312⟩,
    ⟨11360, 11360, 1, 11361⟩, ⟨11362, 11362, 1, 619⟩,
    ⟨11363, 11363, 1, 7549⟩, ⟨11364, 11364, 1, 637⟩,
    ⟨11367, 11371, 2, 11368⟩, ⟨11373, 11373, 1, 593⟩, ⟨11374, 11374, 1, 625⟩,
    ⟨11375, 11375, 1, 592⟩, ⟨11376, 11376, 1, 594⟩, ⟨11378, 11378, 1, 11379⟩,
    ⟨11381, 11381, 1, 11382⟩, ⟨11390, 11391, 1, 575⟩,
    ⟨11392, 11490, 2, 11393⟩, ⟨11499, 11501, 2, 11500⟩,
    ⟨11506, 11506, 1, 11507⟩, ⟨42560, 42604, 2, 42561⟩,
    ⟨42624, 42650, 2, 42625⟩, ⟨42786, 42798, 2, 42787⟩,
    ⟨42802, 42862, 2, 42803⟩, ⟨42873, 42875, 2, 42874⟩,
    ⟨42877, 42877, 1, 7545⟩, ⟨42878, 42886, 2, 42879⟩,
    ⟨42891, 42891, 1, 42892⟩, ⟨42893, 42893, 1, 613⟩,
    ⟨42896, 42898, 2, 42897⟩, ⟨42902, 42920, 2, 42903⟩,
    ⟨42922, 42922, 1, 614⟩, ⟨42923, 42923, 1, 604⟩, ⟨42924, 42924, 1, 609⟩,
    ⟨42925, 42925, 1, 620⟩, ⟨42926, 42926, 1, 618⟩, ⟨42928, 42928, 1, 670⟩,
    ⟨42929, 42929, 1, 647⟩, ⟨42930, 42930, 1, 669⟩, ⟨42931, 42931, 1, 43859⟩,
    ⟨42932, 42946, 2, 42933⟩, ⟨42948, 42948, 1, 42900⟩,
    ⟨42949, 42949, 1, 642⟩, ⟨42950, 42950, 1, 7566⟩,
    ⟨42951, 42953, 2, 42952⟩, ⟨42955, 42955, 1, 612⟩,
    ⟨42956, 42970, 2, 42957⟩, ⟨42972, 42972, 1, 411⟩,
    ⟨42997, 42997, 1, 42998⟩, ⟨65313, 65338, 1, 65345⟩,
    ⟨66560, 66599, 1, 66600⟩, ⟨66736, 66771, 1, 66776⟩,
    ⟨66928, 66964, 2, 66967⟩, ⟨66929, 66937, 2, 66968⟩,
    ⟨66941, 66953, 2, 66980⟩, ⟨66957, 66961, 2, 66996⟩,
    ⟨66965, 66965, 1, 67004⟩, ⟨68736, 68786, 1, 68800⟩,
    ⟨68944, 68965, 1, 68976⟩, ⟨71840, 71871, 1, 71872⟩,
    ⟨93760, 93791, 1, 93792⟩, ⟨93856, 93880, 1, 93883⟩,
    ⟨125184, 125217, 1, 125218⟩]

def uppercaseRuns : List CaseRun :=
  [⟨97, 122, 1, 65⟩, ⟨181, 181, 1, 924⟩, ⟨224, 246, 1, 192⟩,
    ⟨248, 254, 1, 216⟩, ⟨255, 255, 1, 376⟩, ⟨257, 303, 2, 256⟩,
    ⟨305, 305, 1, 73⟩, ⟨307, 311, 2, 306⟩, ⟨314, 328, 2, 313⟩,
    ⟨331, 375, 2, 330⟩, ⟨378, 382, 2, 377⟩, ⟨383, 383, 1, 83⟩,
    ⟨384, 384, 1, 579⟩, ⟨387, 389, 2, 386⟩, ⟨392, 392, 1, 391⟩,
    ⟨396, 396, 1, 395⟩, ⟨402, 402, 1, 401⟩, ⟨405, 405, 1, 502⟩,
    ⟨409, 409, 1, 408⟩, ⟨410, 410, 1, 573⟩, ⟨411, 411, 1, 42972⟩,
    ⟨414, 414, 1, 544⟩, ⟨417, 421, 2, 416⟩, ⟨424, 424, 1, 423⟩,
    ⟨429, 429, 1, 428⟩, ⟨432, 432, 1, 431⟩, ⟨436, 438, 2, 435⟩,
    ⟨441, 441, 1, 440⟩, ⟨445, 445, 1, 444⟩, ⟨447, 447, 1, 503⟩,
    ⟨453, 453, 1, 452⟩, ⟨454, 454, 1, 452⟩, ⟨456, 456, 1, 455⟩,
    ⟨457, 457, 1, 455⟩, ⟨459, 459, 1, 458⟩, ⟨460, 460, 1, 458⟩,
    ⟨462, 476, 2, 461⟩, ⟨477, 477, 1, 398⟩, ⟨479, 495, 2, 478⟩,
    ⟨498, 498, 1, 497⟩, ⟨499, 499, 1, 497⟩, ⟨501, 501, 1, 500⟩,
    ⟨505, 543, 2, 504⟩, ⟨547, 563, 2, 546⟩, ⟨572, 572, 1, 571⟩,
    ⟨575, 576, 1, 11390⟩, ⟨578, 578, 1, 577⟩, ⟨583, 591, 2, 582⟩,
    ⟨592, 592, 1, 11375⟩, ⟨593, 593, 1, 11373⟩, ⟨594, 594, 1, 11376⟩,
    ⟨595, 595, 1, 385⟩, ⟨596, 596, 1, 390⟩, ⟨598, 599, 1, 393⟩,
    ⟨601, 601, 1, 399⟩, ⟨603, 603, 1, 400⟩, ⟨604, 604, 1, 42923⟩,
    ⟨608, 608, 1, 403⟩, ⟨609, 609, 1, 42924⟩, ⟨611, 611, 1, 404⟩,
    ⟨612, 612, 1, 42955⟩, ⟨613, 613, 1, 42893⟩, ⟨614, 614, 1, 42922⟩,
    ⟨616, 616, 1, 407⟩, ⟨617, 617, 1, 406⟩, ⟨618, 618, 1, 42926⟩,
    ⟨619, 619, 1, 11362⟩, ⟨620, 620, 1, 42925⟩, ⟨623, 623, 1, 412⟩,
    ⟨625, 625, 1, 11374⟩, ⟨626, 626, 1, 413⟩, ⟨629, 629, 1, 415⟩,
    ⟨637, 637, 1, 11364⟩, ⟨640, 640, 1, 422⟩, ⟨642, 642, 1, 42949⟩,
    ⟨643, 643, 1, 425⟩, ⟨647, 647, 1, 42929⟩, ⟨648, 648, 1, 430⟩,
    ⟨649, 649, 1, 580⟩, ⟨650, 651, 1, 433⟩, ⟨652, 652, 1, 581⟩,
    ⟨658, 658, 1, 439⟩, ⟨669, 669, 1, 42930⟩, ⟨670, 670, 1, 42928⟩,
    ⟨837, 837, 1, 921⟩, ⟨881, 883, 2, 880⟩, ⟨887, 887, 1, 886⟩,
    ⟨891, 893, 1, 1021⟩, ⟨940, 940, 1, 902⟩, ⟨941, 943, 1, 904⟩,
    ⟨945, 961, 1, 913⟩, ⟨962, 962, 1, 931⟩, ⟨963, 971, 1, 931⟩,
    ⟨972, 972, 1, 908⟩, ⟨973, 974, 1, 910⟩, ⟨976, 976, 1, 914⟩,
    ⟨977, 977, 1, 920⟩, ⟨981, 981, 1, 934⟩, ⟨982, 982, 1, 928⟩,
    ⟨983, 983, 1, 975⟩, ⟨985, 1007, 2, 984⟩, ⟨1008, 1008, 1, 922⟩,
    ⟨1009, 1009, 1, 929⟩, ⟨1010, 1010, 1, 1017⟩, ⟨1011, 1011, 1, 895⟩,
    ⟨1013, 1013, 1, 917⟩, ⟨1016, 1016, 1, 1015⟩, ⟨1019, 1019, 1, 1018⟩,
    ⟨1072, 1103, 1, 1040⟩, ⟨1104, 1119, 1, 1024⟩, ⟨1121, 1153, 2, 1120⟩,
    ⟨1163, 1215, 2, 1162⟩, ⟨1218, 1230, 2, 1217⟩, ⟨1231, 1231, 1, 1216⟩,
    ⟨1233, 1327, 2, 1232⟩, ⟨1377, 1414, 1, 1329⟩, ⟨4304, 4346, 1, 7312⟩,
    ⟨4349, 4351, 1, 7357⟩, ⟨5112, 5117, 1, 5104⟩, ⟨7296, 7296, 1, 1042⟩,
    ⟨7297, 7297, 1, 1044⟩, ⟨7298, 7298, 1, 1054⟩, ⟨7299, 7300, 1, 1057⟩,
    ⟨7301, 7301, 1, 1058⟩, ⟨7302, 7302, 1, 1066⟩, ⟨7303, 7303, 1, 1122⟩,
    ⟨7304, 7304, 1, 42570⟩, ⟨7306, 7306, 1, 7305⟩, ⟨7545, 7545, 1, 42877⟩,
    ⟨7549, 7549, 1, 11363⟩, ⟨7566, 7566, 1, 42950⟩, ⟨7681, 7829, 2, 7680⟩,
    ⟨7835, 7835, 1, 7776⟩, ⟨7841, 7935, 2, 7840⟩, ⟨7936, 7943, 1, 7944⟩,
    ⟨7952, 7957, 1, 7960⟩, ⟨7968, 7975, 1, 7976⟩, ⟨7984, 7991, 1, 7992⟩,
    ⟨8000, 8005, 1, 8008⟩, ⟨8017, 8023, 2, 8025⟩, ⟨8032, 8039, 1, 8040⟩,
    ⟨8048, 8049, 1, 8122⟩, ⟨8050, 8053, 1, 8136⟩, ⟨8054, 8055, 1, 8154⟩,
    ⟨8056, 8057, 1, 8184⟩, ⟨8058, 8059, 1, 8170⟩, ⟨8060, 8061, 1, 8186⟩,
    ⟨8112, 8113, 1, 8120⟩, ⟨8126, 8126, 1, 921⟩, ⟨8144, 8145, 1, 8152⟩,
    ⟨8160, 8161, 1, 8168⟩, ⟨8165, 8165, 1, 8172⟩, ⟨8526, 8526, 1, 8498⟩,
    ⟨8560, 8575, 1, 8544⟩, ⟨8580, 8580, 1, 8579⟩, ⟨9424, 9449, 1, 9398⟩,
    ⟨11312, 11359, 1, 11264⟩, ⟨11361, 11361, 1, 11360⟩,
    ⟨11365, 11365, 1, 570⟩, ⟨11366, 11366, 1, 574⟩, ⟨11368, 11372, 2, 11367⟩,
    ⟨11379, 11379, 1, 11378⟩, ⟨11382, 11382, 1, 11381⟩,
    ⟨11393, 11491, 2, 11392⟩, ⟨11500, 11502, 2, 11499⟩,
    ⟨11507, 11507, 1, 11506⟩, ⟨11520, 11557, 1, 4256⟩,
    ⟨11559, 11559, 1, 4295⟩, ⟨11565, 11565, 1, 4301⟩,
    ⟨42561, 42605, 2, 42560⟩, ⟨42625, 42651, 2, 42624⟩,
    ⟨42787, 42799, 2, 42786⟩, ⟨42803, 42863, 2, 42802⟩,
    ⟨42874, 42876, 2, 42873⟩, ⟨42879, 42887, 2, 42878⟩,
    ⟨42892, 42892, 1, 42891⟩, ⟨42897, 42899, 2, 42896⟩,
    ⟨42900, 42900, 1, 42948⟩, ⟨42903, 42921, 2, 42902⟩,
    ⟨42933, 42947, 2, 42932⟩, ⟨42952, 42954, 2, 42951⟩,
    ⟨42957, 42971, 2, 42956⟩, ⟨42998, 42998, 1, 42997⟩,
    ⟨43859, 43859, 1, 42931⟩, ⟨43888, 43967, 1, 5024⟩,
    ⟨65345, 65370, 1, 65313⟩, ⟨66600, 66639, 1, 66560⟩,
    ⟨66776, 66811, 1, 66736⟩, ⟨66967, 67003, 2, 66928⟩,
    ⟨66968, 66976, 2, 66929⟩, ⟨66980, 66992, 2, 66941⟩,
    ⟨66996, 67000, 2, 66957⟩, ⟨67004, 67004, 1, 66965⟩,
    ⟨68800, 68850, 1, 68736⟩, ⟨68976, 68997, 1, 68944⟩,
    ⟨71872, 71903, 1, 71840⟩, ⟨93792, 93823, 1, 93760⟩,
    ⟨93883, 93907, 1, 93856⟩, ⟨125218, 125251, 1, 125184⟩]

/-- The letters with several uppercase characters. -/
def uppercaseSequences : List (Nat × List Nat) :=
  [(223, [83, 83]), (329, [700, 78]), (496, [74, 780]),
    (912, [921, 776, 769]), (944, [933, 776, 769]), (1415, [1333, 1362]),
    (7830, [72, 817]), (7831, [84, 776]), (7832, [87, 778]),
    (7833, [89, 778]), (7834, [65, 702]), (8016, [933, 787]),
    (8018, [933, 787, 768]), (8020, [933, 787, 769]),
    (8022, [933, 787, 834]), (8064, [7944, 921]), (8065, [7945, 921]),
    (8066, [7946, 921]), (8067, [7947, 921]), (8068, [7948, 921]),
    (8069, [7949, 921]), (8070, [7950, 921]), (8071, [7951, 921]),
    (8072, [7944, 921]), (8073, [7945, 921]), (8074, [7946, 921]),
    (8075, [7947, 921]), (8076, [7948, 921]), (8077, [7949, 921]),
    (8078, [7950, 921]), (8079, [7951, 921]), (8080, [7976, 921]),
    (8081, [7977, 921]), (8082, [7978, 921]), (8083, [7979, 921]),
    (8084, [7980, 921]), (8085, [7981, 921]), (8086, [7982, 921]),
    (8087, [7983, 921]), (8088, [7976, 921]), (8089, [7977, 921]),
    (8090, [7978, 921]), (8091, [7979, 921]), (8092, [7980, 921]),
    (8093, [7981, 921]), (8094, [7982, 921]), (8095, [7983, 921]),
    (8096, [8040, 921]), (8097, [8041, 921]), (8098, [8042, 921]),
    (8099, [8043, 921]), (8100, [8044, 921]), (8101, [8045, 921]),
    (8102, [8046, 921]), (8103, [8047, 921]), (8104, [8040, 921]),
    (8105, [8041, 921]), (8106, [8042, 921]), (8107, [8043, 921]),
    (8108, [8044, 921]), (8109, [8045, 921]), (8110, [8046, 921]),
    (8111, [8047, 921]), (8114, [8122, 921]), (8115, [913, 921]),
    (8116, [902, 921]), (8118, [913, 834]), (8119, [913, 834, 921]),
    (8124, [913, 921]), (8130, [8138, 921]), (8131, [919, 921]),
    (8132, [905, 921]), (8134, [919, 834]), (8135, [919, 834, 921]),
    (8140, [919, 921]), (8146, [921, 776, 768]), (8147, [921, 776, 769]),
    (8150, [921, 834]), (8151, [921, 776, 834]), (8162, [933, 776, 768]),
    (8163, [933, 776, 769]), (8164, [929, 787]), (8166, [933, 834]),
    (8167, [933, 776, 834]), (8178, [8186, 921]), (8179, [937, 921]),
    (8180, [911, 921]), (8182, [937, 834]), (8183, [937, 834, 921]),
    (8188, [937, 921]), (64256, [70, 70]), (64257, [70, 73]),
    (64258, [70, 76]), (64259, [70, 70, 73]), (64260, [70, 70, 76]),
    (64261, [83, 84]), (64262, [83, 84]), (64275, [1348, 1350]),
    (64276, [1348, 1333]), (64277, [1348, 1339]), (64278, [1358, 1350]),
    (64279, [1348, 1341])]

/-- `char::to_lowercase`. -/
def lowercaseChar (char : Char) : List Char :=
  if char.toNat = 304 then
    [Char.ofNat 105, Char.ofNat 775]
  else
    [Char.ofNat (counterpart lowercaseRuns char.toNat)]

/-- How capital sigmas are written in lowercase: whether one with this text
before it and this text behind it ends a word. -/
abbrev SigmaRule := List Char → List Char → Bool

/-- `str::to_lowercase` of the rest of a text, from the text before it in
reverse. -/
def toLowercaseAfter (endsWord : SigmaRule) (before : List Char) :
    List Char → List Char
  | [] => []
  | char :: rest =>
      (if char.toNat = 931 ∧ endsWord before rest then
        [Char.ofNat 962]
      else
        lowercaseChar char) ++
      toLowercaseAfter endsWord (char :: before) rest

/-- `str::to_lowercase`. -/
def toLowercase (endsWord : SigmaRule) (text : List Char) : List Char :=
  toLowercaseAfter endsWord [] text

/-- `char::to_uppercase`. -/
def uppercaseChar (char : Char) : List Char :=
  match uppercaseSequences.lookup char.toNat with
  | some codes => codes.map Char.ofNat
  | none => [Char.ofNat (counterpart uppercaseRuns char.toNat)]

/-- `str::to_uppercase`. -/
def toUppercase (text : List Char) : List Char :=
  text.flatMap uppercaseChar

section Disjointness

/-- The set of some numbers as the bits of one. -/
def bitSet : List Nat → Nat
  | [] => 0
  | number :: rest => 1 <<< number ||| bitSet rest

theorem testBit_bitSet_iff {numbers : List Nat} {number : Nat} :
    (bitSet numbers).testBit number = true ↔ number ∈ numbers := by
  induction numbers with
  | nil => simp [bitSet]
  | cons first rest ih =>
      rw [bitSet, Nat.testBit_or, Nat.one_shiftLeft, Nat.testBit_two_pow,
        Bool.or_eq_true, ih, decide_eq_true_eq, List.mem_cons, eq_comm]

/-- Lists of numbers are disjoint if their sets have no bit in common. -/
theorem not_mem_of_bitSet {first second : List Nat} {number : Nat}
    (disjoint : bitSet first &&& bitSet second = 0)
    (member : number ∈ first) : number ∉ second := by
  intro shared
  have both : (bitSet first &&& bitSet second).testBit number = true := by
    simp [Nat.testBit_and, testBit_bitSet_iff.mpr member,
      testBit_bitSet_iff.mpr shared]
  simp [disjoint] at both

end Disjointness

section Runs

variable {runs : List CaseRun}

/-- The distances of the letters of a run from its first one. -/
def CaseRun.offsets (run : CaseRun) : List Nat :=
  (List.range ((run.last - run.first) / run.step + 1)).map (run.step * ·)

/-- The letters of some runs. -/
def letters (runs : List CaseRun) : List Nat :=
  runs.flatMap fun run => run.offsets.map (run.first + ·)

/-- The counterparts of these letters. -/
def counterparts (runs : List CaseRun) : List Nat :=
  runs.flatMap fun run => run.offsets.map (run.target + ·)

theorem CaseRun.covers_eq_true {run : CaseRun} {code : Nat}
    (covers : run.covers code = true) :
    run.first ≤ code ∧ code ≤ run.last ∧
      code - run.first ∈ run.offsets := by
  simp only [CaseRun.covers, Bool.and_eq_true, Nat.ble_eq,
    Nat.beq_eq] at covers
  obtain ⟨⟨lower, upper⟩, divides⟩ := covers
  refine ⟨lower, upper, List.mem_map.mpr
    ⟨(code - run.first) / run.step, ?_, ?_⟩⟩
  · rw [List.mem_range]
    exact Nat.lt_succ_of_le (Nat.div_le_div_right (by omega))
  · exact Nat.mul_div_cancel' (Nat.dvd_of_mod_eq_zero divides)

/-- A code point is its own counterpart, or a run maps it. -/
theorem counterpart_cases (runs : List CaseRun) (code : Nat) :
    counterpart runs code = code ∨
      ∃ run ∈ runs, run.covers code = true ∧
        counterpart runs code = run.target + (code - run.first) := by
  unfold counterpart
  cases found : runs.find? (·.covers code) with
  | none => exact .inl rfl
  | some run =>
      have covers : run.covers code = true :=
        by simpa using List.find?_some found
      exact .inr ⟨run, List.mem_of_find?_eq_some found, covers, rfl⟩

theorem counterpart_of_not_mem {code : Nat} (outside : code ∉ letters runs) :
    counterpart runs code = code := by
  rcases counterpart_cases runs code with same | ⟨run, member, covers, _⟩
  · exact same
  · obtain ⟨lower, _, offset⟩ := CaseRun.covers_eq_true covers
    refine absurd (List.mem_flatMap.mpr ⟨run, member, List.mem_map.mpr
      ⟨code - run.first, offset, ?_⟩⟩) outside
    omega

theorem counterpart_mem (runs : List CaseRun) (code : Nat) :
    counterpart runs code = code ∨
      counterpart runs code ∈ counterparts runs := by
  rcases counterpart_cases runs code with same | ⟨run, member, covers, same⟩
  · exact .inl same
  · refine .inr (List.mem_flatMap.mpr ⟨run, member, List.mem_map.mpr
      ⟨code - run.first, (CaseRun.covers_eq_true covers).2.2, same.symm⟩⟩)

/-- The code points that runs may map to a given one. -/
def preimages (runs : List CaseRun) (code : Nat) : List Nat :=
  runs.filterMap fun run =>
    if run.target ≤ code ∧ code ≤ run.target + (run.last - run.first) then
      some (run.first + (code - run.target))
    else
      none

theorem eq_or_mem_preimages {code image : Nat}
    (maps : counterpart runs code = image) :
    code = image ∨ code ∈ preimages runs image := by
  rcases counterpart_cases runs code with same | ⟨run, member, covers, same⟩
  · exact .inl (same.symm.trans maps)
  · obtain ⟨lower, upper, _⟩ := CaseRun.covers_eq_true covers
    refine .inr (List.mem_filterMap.mpr ⟨run, member, ?_⟩)
    rw [if_pos (by omega)]
    congr 1
    omega

end Runs

section Uppercase

theorem toNat_ofNat_cases (code : Nat) :
    (Char.ofNat code).toNat = code ∨ (Char.ofNat code).toNat = 0 := by
  unfold Char.ofNat
  split
  · exact .inl (by simp [Char.ofNatAux, Char.toNat])
  · exact .inr rfl

/-- The code points that uppercase changes. -/
def changedByUppercase : List Nat :=
  letters uppercaseRuns ++ uppercaseSequences.map (·.1)

/-- The code points that uppercase changes others to. -/
def resultsOfUppercase : List Nat :=
  0 :: counterparts uppercaseRuns ++ uppercaseSequences.flatMap (·.2)

theorem uppercase_results_unchanged :
    bitSet resultsOfUppercase &&& bitSet changedByUppercase = 0 := by
  decide +kernel

theorem uppercaseChar_of_not_mem {char : Char}
    (outside : char.toNat ∉ changedByUppercase) :
    uppercaseChar char = [char] := by
  rw [changedByUppercase, List.mem_append, not_or] at outside
  obtain ⟨outsideRuns, outsideSequences⟩ := outside
  have absent : uppercaseSequences.lookup char.toNat = none := by
    rw [List.lookup_eq_none_iff]
    intro entry member
    simp only [bne_iff_ne, ne_eq]
    intro same
    exact outsideSequences (List.mem_map.mpr ⟨entry, member, same.symm⟩)
  rw [uppercaseChar, absent]
  simp [counterpart_of_not_mem outsideRuns]

theorem uppercaseChar_ofNat {code : Nat}
    (result : code ∈ resultsOfUppercase) :
    uppercaseChar (Char.ofNat code) = [Char.ofNat code] := by
  apply uppercaseChar_of_not_mem
  rcases toNat_ofNat_cases code with same | same
  · rw [same]
    exact not_mem_of_bitSet uppercase_results_unchanged result
  · rw [same]
    exact not_mem_of_bitSet uppercase_results_unchanged
      (List.mem_cons_self ..)

theorem uppercaseChar_fixed {char upper : Char}
    (member : upper ∈ uppercaseChar char) : uppercaseChar upper = [upper] := by
  unfold uppercaseChar at member
  split at member
  · rename_i codes found
    obtain ⟨code, codeMember, rfl⟩ := List.mem_map.mp member
    obtain ⟨before, after, split, _⟩ := List.lookup_eq_some_iff.mp found
    apply uppercaseChar_ofNat
    exact List.mem_cons_of_mem _ (List.mem_append_right _
      (List.mem_flatMap.mpr ⟨(char.toNat, codes), by simp [split], codeMember⟩))
  · rename_i absent
    cases List.mem_singleton.mp member
    rcases counterpart_mem uppercaseRuns char.toNat with same | result
    · rw [same, Char.ofNat_toNat, uppercaseChar, absent]
      simp [same]
    · exact uppercaseChar_ofNat
        (List.mem_cons_of_mem _ (List.mem_append_left _ result))

/-- Uppercase text stays as it is. -/
theorem toUppercase_toUppercase (text : List Char) :
    toUppercase (toUppercase text) = toUppercase text := by
  have fixed : ∀ upper ∈ toUppercase text, uppercaseChar upper = [upper] := by
    intro upper member
    obtain ⟨char, _, member⟩ := List.mem_flatMap.mp member
    exact uppercaseChar_fixed member
  generalize toUppercase text = upper at fixed
  induction upper with
  | nil => rfl
  | cons char rest ih =>
      rw [toUppercase, List.flatMap_cons, fixed char (by simp)]
      exact congrArg (char :: ·)
        (ih fun upper member => fixed upper (by simp [member]))

end Uppercase

section Lowercase

/-- A character and how it is written in lowercase. -/
def IsLowercase (char : Char) (piece : List Char) : Prop :=
  piece = lowercaseChar char ∨ char.toNat = 931 ∧ piece = [Char.ofNat 962]

/-- A text and its lowercase. -/
inductive Lowered : List Char → List Char → Prop where
  | nil : Lowered [] []
  | cons {char : Char} {piece text lowered : List Char}
      (head : IsLowercase char piece) (tail : Lowered text lowered) :
      Lowered (char :: text) (piece ++ lowered)

theorem isLowercase_of_rule (endsWord : SigmaRule) (before : List Char)
    (char : Char) (rest : List Char) :
    IsLowercase char (if char.toNat = 931 ∧ endsWord before rest then
      [Char.ofNat 962]
    else
      lowercaseChar char) := by
  split
  · rename_i sigma
    exact .inr ⟨sigma.1, rfl⟩
  · exact .inl rfl

theorem lowered_toLowercaseAfter (endsWord : SigmaRule)
    (before text : List Char) :
    Lowered text (toLowercaseAfter endsWord before text) := by
  induction text generalizing before with
  | nil => exact .nil
  | cons char rest ih =>
      exact .cons (isLowercase_of_rule endsWord before char rest)
        (ih (char :: before))

theorem lowered_toLowercase (endsWord : SigmaRule) (text : List Char) :
    Lowered text (toLowercase endsWord text) :=
  lowered_toLowercaseAfter endsWord [] text

/-- A character that lowercase leaves alone. -/
def isLowercaseAlready (char : Char) : Bool :=
  lowercaseChar char == [char] && char.toNat != 931

theorem toLowercase_of_already {endsWord : SigmaRule} {text : List Char}
    (already : ∀ char ∈ text, isLowercaseAlready char = true) :
    toLowercase endsWord text = text := by
  suffices ∀ before, toLowercaseAfter endsWord before text = text from
    this []
  induction text with
  | nil => exact fun _ => rfl
  | cons char rest ih =>
      intro before
      have first := already char (by simp)
      simp only [isLowercaseAlready, Bool.and_eq_true, beq_iff_eq,
        bne_iff_ne, ne_eq] at first
      rw [toLowercaseAfter, if_neg (fun sigma => first.2 sigma.1), first.1,
        ih (fun char member => already char (by simp [member]))]
      rfl

/-- The code points that lowercase changes. -/
def changedByLowercase : List Nat :=
  304 :: 931 :: letters lowercaseRuns

/-- The code points that lowercase changes others to. -/
def resultsOfLowercase : List Nat :=
  [0, 105, 775, 962] ++ counterparts lowercaseRuns

theorem lowercase_results_unchanged :
    bitSet resultsOfLowercase &&& bitSet changedByLowercase = 0 := by
  decide +kernel

theorem isLowercaseAlready_of_not_mem {char : Char}
    (outside : char.toNat ∉ changedByLowercase) :
    isLowercaseAlready char = true := by
  simp only [changedByLowercase, List.mem_cons, not_or] at outside
  obtain ⟨notDotted, notSigma, outsideRuns⟩ := outside
  simp [isLowercaseAlready, lowercaseChar, notDotted, notSigma,
    counterpart_of_not_mem outsideRuns]

theorem isLowercaseAlready_ofNat {code : Nat}
    (result : code ∈ resultsOfLowercase) :
    isLowercaseAlready (Char.ofNat code) = true := by
  apply isLowercaseAlready_of_not_mem
  rcases toNat_ofNat_cases code with same | same
  · rw [same]
    exact not_mem_of_bitSet lowercase_results_unchanged result
  · rw [same]
    exact not_mem_of_bitSet lowercase_results_unchanged
      (List.mem_cons_self ..)

/-- Lowercase leaves its results alone. -/
theorem IsLowercase.already {char : Char} {piece : List Char}
    (lowercase : IsLowercase char piece) :
    ∀ other ∈ piece, isLowercaseAlready other = true := by
  have result (code : Nat) (isResult : code ∈ [0, 105, 775, 962]) :
      isLowercaseAlready (Char.ofNat code) = true :=
    isLowercaseAlready_ofNat (List.mem_append_left _ isResult)
  intro other member
  rcases lowercase with rfl | ⟨_, rfl⟩
  · unfold lowercaseChar at member
    split at member
    · simp only [List.mem_cons, List.not_mem_nil, or_false] at member
      rcases member with rfl | rfl
      · exact result 105 (by simp)
      · exact result 775 (by simp)
    · rename_i notDotted
      cases List.mem_singleton.mp member
      rcases counterpart_mem lowercaseRuns char.toNat with same | isImage
      · rw [same, Char.ofNat_toNat]
        have notSigma : char.toNat ≠ 931 := by
          intro sigma
          rw [sigma] at same
          exact absurd same (by decide)
        simp [isLowercaseAlready, lowercaseChar, notDotted, notSigma, same]
      · exact isLowercaseAlready_ofNat (List.mem_append_right _ isImage)
  · cases List.mem_singleton.mp member
    exact result 962 (by simp)

theorem Lowered.already {text lowered : List Char}
    (lowers : Lowered text lowered) :
    ∀ char ∈ lowered, isLowercaseAlready char = true := by
  induction lowers with
  | nil => exact fun _ none => nomatch none
  | cons head _ ih =>
      intro char member
      rcases List.mem_append.mp member with inPiece | inRest
      · exact head.already char inPiece
      · exact ih char inRest

/-- A character that only single characters are written as in lowercase. -/
def isPlainImage (char : Char) : Bool :=
  char.toNat != 0 && char.toNat != 775 && char.toNat != 962

theorem toNat_eq_of_ofNat {code : Nat} {char : Char}
    (nonzero : char.toNat ≠ 0) (same : Char.ofNat code = char) :
    code = char.toNat := by
  rcases toNat_ofNat_cases code with valid | invalid
  · rw [← same, valid]
  · rw [same] at invalid
    exact absurd invalid nonzero

/-- What is written as a given character, or as characters of which the given
one is the last. -/
theorem IsLowercase.eq_singleton {char last : Char} {front : List Char}
    (lowercase : IsLowercase char (front ++ [last]))
    (plain : isPlainImage last = true) :
    front = [] ∧ (char = last ∨
      char.toNat ∈ preimages lowercaseRuns last.toNat) := by
  simp only [isPlainImage, Bool.and_eq_true, bne_iff_ne, ne_eq] at plain
  obtain ⟨⟨nonzero, notDot⟩, notFinal⟩ := plain
  rcases lowercase with same | ⟨_, same⟩
  · unfold lowercaseChar at same
    split at same
    · obtain ⟨_, isLast⟩ := List.append_inj'
        (show front ++ [last] = [Char.ofNat 105] ++ [Char.ofNat 775]
          from same) rfl
      cases isLast
      exact absurd (by rfl) notDot
    · obtain ⟨isFront, isLast⟩ := List.append_inj'
        (show front ++ [last] =
          [] ++ [Char.ofNat (counterpart lowercaseRuns char.toNat)]
          from same) rfl
      have code := toNat_eq_of_ofNat nonzero (List.cons.inj isLast).1.symm
      refine ⟨isFront, (eq_or_mem_preimages code).imp_left ?_⟩
      intro sameCode
      rw [← Char.ofNat_toNat char, sameCode, Char.ofNat_toNat]
  · obtain ⟨_, isLast⟩ := List.append_inj'
      (show front ++ [last] = [] ++ [Char.ofNat 962] from same) rfl
    cases isLast
    exact absurd (by rfl) notFinal

theorem Lowered.concat_inv {text lowered : List Char} {char : Char}
    (whole : Lowered (text ++ [char]) lowered) :
    ∃ front piece, lowered = front ++ piece ∧ Lowered text front ∧
      IsLowercase char piece := by
  induction text generalizing lowered with
  | nil =>
      rcases whole with _ | ⟨head, tail⟩
      cases tail
      exact ⟨[], _, by simp, .nil, head⟩
  | cons first rest ih =>
      rcases whole with _ | ⟨head, tail⟩
      obtain ⟨front, piece, rfl, lowers, last⟩ := ih tail
      exact ⟨_ ++ front, piece, by simp, .cons head lowers, last⟩

theorem IsLowercase.ne_nil {char : Char} {piece : List Char}
    (lowercase : IsLowercase char piece) : piece ≠ [] := by
  rcases lowercase with rfl | ⟨_, rfl⟩
  · unfold lowercaseChar
    split <;> simp
  · simp

/-- A text whose lowercase has a plain ending ends in as many characters that
are written as that ending. -/
theorem Lowered.suffix_inv {text front ending : List Char}
    (lowers : Lowered text (front ++ ending))
    (plain : ∀ char ∈ ending, isPlainImage char = true) :
    ∃ before after, text = before ++ after ∧ Lowered before front ∧
      List.Forall₂ (fun char image => char = image ∨
        char.toNat ∈ preimages lowercaseRuns image.toNat) after ending := by
  induction ending using List.reverseRecOn generalizing text with
  | nil => exact ⟨text, [], by simp, by simpa using lowers, .nil⟩
  | append_singleton ending image ih =>
      rw [← List.append_assoc] at lowers
      rcases text.eq_nil_or_concat with rfl | ⟨text, char, rfl⟩
      · generalize isLowered : front ++ ending ++ [image] = lowered at lowers
        cases lowers
        simp at isLowered
      · rw [List.concat_eq_append] at lowers
        obtain ⟨rest, piece, isLowered, lowersRest, lowercase⟩ :=
          lowers.concat_inv
        rcases piece.eq_nil_or_concat with rfl | ⟨pieceFront, last, rfl⟩
        · exact absurd rfl lowercase.ne_nil
        rw [List.concat_eq_append, ← List.append_assoc] at isLowered
        obtain ⟨isRest, isLast⟩ := List.append_inj' isLowered rfl
        cases isLast
        rw [List.concat_eq_append] at lowercase
        obtain ⟨rfl, source⟩ :=
          lowercase.eq_singleton (plain image (by simp))
        rw [List.append_nil] at isRest
        subst isRest
        obtain ⟨before, after, rfl, lowersBefore, matched⟩ :=
          ih lowersRest fun char member => plain char (by simp [member])
        exact ⟨before, after ++ [char], by simp, lowersBefore,
          List.rel_append matched (.cons source .nil)⟩

end Lowercase

section Members

variable {text lowered : List Char}

/-- A character that is its own lowercase occurs in the lowercase text. -/
theorem Lowered.mem_of_already {char image : Char}
    (lowers : Lowered text lowered) (member : char ∈ text)
    (writes : ∀ piece, IsLowercase char piece → image ∈ piece) :
    image ∈ lowered := by
  induction lowers with
  | nil => simp at member
  | cons head _ ih =>
      rcases List.mem_cons.mp member with rfl | inRest
      · exact List.mem_append_left _ (writes _ head)
      · exact List.mem_append_right _ (ih inRest)

/-- A character of the lowercase text that no letter has as its lowercase is a
character of the text. -/
theorem Lowered.source {image : Char} (lowers : Lowered text lowered)
    (member : image ∈ lowered) (plain : isPlainImage image = true)
    (notDotted : image.toNat ≠ 105) :
    ∃ char ∈ text, counterpart lowercaseRuns char.toNat = image.toNat := by
  simp only [isPlainImage, Bool.and_eq_true, bne_iff_ne, ne_eq] at plain
  obtain ⟨⟨nonzero, notDot⟩, notFinal⟩ := plain
  induction lowers with
  | nil => simp at member
  | cons head _ ih =>
      rcases List.mem_append.mp member with inPiece | inRest
      · refine ⟨_, List.mem_cons_self .., ?_⟩
        rcases head with rfl | ⟨_, rfl⟩
        · unfold lowercaseChar at inPiece
          split at inPiece
          · simp only [List.mem_cons, List.not_mem_nil, or_false] at inPiece
            rcases inPiece with rfl | rfl
            · exact absurd (by rfl) notDotted
            · exact absurd (by rfl) notDot
          · exact toNat_eq_of_ofNat nonzero (List.mem_singleton.mp inPiece).symm
        · rw [List.mem_singleton.mp inPiece] at notFinal
          exact absurd (by rfl) notFinal
      · obtain ⟨char, inText, source⟩ := ih inRest
        exact ⟨char, by simp [inText], source⟩

/-- A letter that no letter has as its lowercase is in no lowercase text. -/
theorem Lowered.absent {letter : Char} (lowers : Lowered text lowered)
    (plain : isPlainImage letter = true) (notDotted : letter.toNat ≠ 105)
    (noSource : preimages lowercaseRuns letter.toNat = [])
    (changes : counterpart lowercaseRuns letter.toNat ≠ letter.toNat) :
    letter ∉ lowered := by
  intro member
  obtain ⟨char, _, source⟩ := lowers.source member plain notDotted
  rcases eq_or_mem_preimages source with same | preimage
  · exact changes (same ▸ source)
  · simp [noSource] at preimage

end Members

section Lengths

variable {text lowered : List Char}

/-- No lowercase text has the letter that becomes two characters. -/
theorem Lowered.single {char : Char} (lowers : Lowered text lowered)
    (member : char ∈ lowered) : char.toNat ≠ 304 := by
  have noSource : preimages lowercaseRuns 304 = [] := by decide
  induction lowers with
  | nil => simp at member
  | cons head _ ih =>
      rcases List.mem_append.mp member with inPiece | inRest
      · rcases head with rfl | ⟨_, rfl⟩
        · unfold lowercaseChar at inPiece
          split at inPiece
          · simp only [List.mem_cons, List.not_mem_nil, or_false] at inPiece
            rcases inPiece with rfl | rfl <;> decide
          · rename_i notDotted
            intro dotted
            have image := toNat_eq_of_ofNat (by omega)
              (List.mem_singleton.mp inPiece).symm
            rw [dotted] at image
            rcases eq_or_mem_preimages image with same | source
            · exact notDotted same
            · simp [noSource] at source
        · rw [List.mem_singleton.mp inPiece]
          decide
      · exact ih inRest

theorem IsLowercase.length_le {char : Char} {piece : List Char}
    (lowercase : IsLowercase char piece) : piece.length ≤ 2 := by
  rcases lowercase with rfl | ⟨_, rfl⟩
  · unfold lowercaseChar
    split <;> simp
  · simp

theorem Lowered.length_le (lowers : Lowered text lowered) :
    lowered.length ≤ 2 * text.length := by
  induction lowers with
  | nil => simp
  | cons head _ ih =>
      have short := head.length_le
      simp only [List.length_append, List.length_cons]
      omega

theorem Lowered.length_eq (lowers : Lowered text lowered)
    (single : ∀ char ∈ text, char.toNat ≠ 304) :
    lowered.length = text.length := by
  induction lowers with
  | nil => rfl
  | cons head _ ih =>
      have rested := ih fun char member => single char (by simp [member])
      have one := single _ (List.mem_cons_self ..)
      rcases head with rfl | ⟨_, rfl⟩
      · simp [lowercaseChar, one, rested]
      · simp [rested]

/-- The letters that take more bytes in lowercase. -/
def isGrowing (char : Char) : Bool :=
  char.toNat == 304 || char.toNat == 570 || char.toNat == 574

theorem utf8Size_of_run : ∀ run ∈ lowercaseRuns, ∀ offset ∈ run.offsets,
    run.first + offset = 570 ∨ run.first + offset = 574 ∨
      (Char.ofNat (run.target + offset)).utf8Size ≤
        (Char.ofNat (run.first + offset)).utf8Size := by
  decide +kernel

theorem IsLowercase.byteLength_le {char : Char} {piece : List Char}
    (lowercase : IsLowercase char piece) (notGrowing : isGrowing char = false) :
    byteLength piece ≤ char.utf8Size := by
  simp only [isGrowing, Bool.or_eq_false_iff, beq_eq_false_iff_ne] at notGrowing
  rcases lowercase with rfl | ⟨sigma, rfl⟩
  · rw [lowercaseChar, if_neg notGrowing.1.1, byteLength_cons, byteLength_nil,
      Nat.add_zero]
    rcases counterpart_cases lowercaseRuns char.toNat with
      same | ⟨run, member, covers, same⟩
    · rw [same, Char.ofNat_toNat]
    · obtain ⟨lower, _, offset⟩ := CaseRun.covers_eq_true covers
      have sized := utf8Size_of_run run member _ offset
      rw [show run.first + (char.toNat - run.first) = char.toNat by omega,
        Char.ofNat_toNat] at sized
      rw [same]
      omega
  · rw [← Char.ofNat_toNat char, sigma]
    decide

theorem Lowered.byteLength_le (lowers : Lowered text lowered)
    (notGrowing : ∀ char ∈ text, isGrowing char = false) :
    byteLength lowered ≤ byteLength text := by
  induction lowers with
  | nil => exact Nat.le_refl _
  | cons head _ ih =>
      rw [byteLength_append, byteLength_cons]
      exact Nat.add_le_add
        (head.byteLength_le (notGrowing _ (List.mem_cons_self ..)))
        (ih fun char member => notGrowing char (by simp [member]))

/-- Lowercase text does not grow in lowercase. -/
theorem Lowered.not_growing (lowers : Lowered text lowered) :
    ∀ char ∈ lowered, isGrowing char = false := by
  intro char member
  have dotted := lowers.single member
  have absent : Char.ofNat 570 ∉ lowered ∧ Char.ofNat 574 ∉ lowered :=
    ⟨lowers.absent (by decide) (by decide) (by decide) (by decide),
      lowers.absent (by decide) (by decide) (by decide) (by decide)⟩
  have other (code : Nat) (missing : Char.ofNat code ∉ lowered) :
      char.toNat ≠ code := by
    rintro rfl
    rw [Char.ofNat_toNat] at missing
    exact missing member
  simp [isGrowing, dotted, other 570 absent.1, other 574 absent.2]

/-- What stands in lowercase for a letter that grows. -/
def grownMarks : List Char :=
  [Char.ofNat 775, Char.ofNat 11365, Char.ofNat 11366]

theorem Lowered.exists_grown {char : Char} (lowers : Lowered text lowered)
    (member : char ∈ text) (growing : isGrowing char = true) :
    ∃ mark ∈ grownMarks, mark ∈ lowered := by
  simp only [isGrowing, Bool.or_eq_true, beq_iff_eq] at growing
  have written (mark : Char) (isMark : mark ∈ grownMarks)
      (writes : mark ∈ lowercaseChar char) (notSigma : char.toNat ≠ 931) :
      ∃ mark ∈ grownMarks, mark ∈ lowered := by
    refine ⟨mark, isMark, lowers.mem_of_already member ?_⟩
    rintro piece (rfl | ⟨sigma, _⟩)
    · exact writes
    · exact absurd sigma notSigma
  rcases growing with (dotted | barred) | crossed
  · exact written (Char.ofNat 775) (by decide)
      (by simp [lowercaseChar, dotted]) (by omega)
  · refine written (Char.ofNat 11365) (by decide) ?_ (by omega)
    rw [← Char.ofNat_toNat char, barred]
    decide
  · refine written (Char.ofNat 11366) (by decide) ?_ (by omega)
    rw [← Char.ofNat_toNat char, crossed]
    decide

end Lengths

end RustText

end ZaloBot
