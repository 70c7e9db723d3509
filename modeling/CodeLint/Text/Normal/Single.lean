/-!
Characters of names whose compatibility decomposition (Unicode 14) is one other character. A row
gives the first of a run of characters and what each of them decomposes to.
-/

set_option maxRecDepth 20000

namespace CodeLint.Text

def singleForms : List (Nat × List Nat) :=
  [(170, [97]), (181, [956]), (186, [111]), (383, [115]),
   (688, [104, 614, 106, 114, 633, 635, 641, 119, 121]), (736, [611, 108, 115, 120, 661]),
   (832, [768, 769]), (835, [787]), (884, [697]), (903, [183]), (976, [946, 952, 933]),
   (981, [966, 960]), (1008, [954, 961, 962]), (1012, [920, 949]), (1017, [931]), (4348, [4316]),
   (7468, [65, 198, 66]), (7472, [68, 69, 398, 71, 72, 73, 74, 75, 76, 77, 78]), (7484, [79, 546,
   80, 82, 84, 85, 87, 97, 592, 593, 7426, 98, 100, 101, 601, 603, 604, 103]), (7503, [107, 109,
   331, 111, 596, 7446, 7447, 112, 116, 117, 7453, 623, 118, 7461, 946, 947, 948, 966, 967, 105,
   114, 117, 118, 946, 947, 961, 966, 967]), (7544, [1085]), (7579, [594, 99, 597, 240, 604, 102,
   607, 609, 613, 616, 617, 618, 7547, 669, 621, 7557, 671, 625, 624, 626, 627, 628, 629, 632, 642,
   643, 427, 649, 650, 7452, 651, 652, 122, 656, 657, 658, 952]), (8126, [953]), (8305, [105]),
   (8319, [110]), (8336, [97, 101, 111, 120, 601, 104, 107, 108, 109, 110, 112, 115, 116]),
   (8450, [67]), (8455, [400]), (8458, [103, 72, 72, 72, 104, 295, 73, 73, 76, 108]), (8469, [78]),
   (8473, [80, 81, 82, 82, 82]), (8484, [90]), (8486, [937]), (8488, [90]), (8490, [75]),
   (8492, [66, 67]), (8495, [101, 69, 70]), (8499, [77, 111, 1488, 1489, 1490, 1491, 105]),
   (8508, [960, 947, 915, 928]), (8517, [68, 100, 101, 105, 106]), (8544, [73]), (8548, [86]),
   (8553, [88]), (8556, [76, 67, 68, 77, 105]), (8564, [118]), (8569, [120]),
   (8572, [108, 99, 100, 109]), (11388, [106, 86]), (11631, [11617]),
   (12344, [21313, 21316, 21317]), (12593, [4352, 4353, 4522, 4354, 4524, 4525, 4355, 4356, 4357,
   4528, 4529, 4530, 4531, 4532, 4533, 4378, 4358, 4359, 4360, 4385, 4361, 4362, 4363, 4364, 4365,
   4366, 4367, 4368, 4369, 4370, 4449, 4450, 4451, 4452, 4453, 4454, 4455, 4456, 4457, 4458, 4459,
   4460, 4461, 4462, 4463, 4464, 4465, 4466, 4467, 4468, 4469, 4448, 4372, 4373, 4551, 4552, 4556,
   4558, 4563, 4567, 4569, 4380, 4573, 4575, 4381, 4382, 4384, 4386, 4387, 4391, 4393, 4395, 4396,
   4397, 4398, 4399, 4402, 4406, 4416, 4423, 4428, 4593, 4594, 4439, 4440, 4441, 4484, 4485, 4488,
   4497, 4498, 4500, 4510, 4513]), (42652, [1098, 1100]), (42864, [42863]), (42994, [67, 70, 81]),
   (43000, [294, 339]), (43868, [42791, 43831, 619, 43858]), (43881, [653]), (63744, [35912, 26356,
   36554, 36040, 28369, 20018, 21477, 40860, 40860, 22865, 37329, 21895, 22856, 25078, 30313,
   32645, 34367, 34746, 35064, 37007, 27138, 27931, 28889, 29662, 33853, 37226, 39409, 20098,
   21365, 27396, 29211, 34349, 40478, 23888, 28651, 34253, 35172, 25289, 33240, 34847, 24266,
   26391, 28010, 29436, 37070, 20358, 20919, 21214, 25796, 27347, 29200, 30439, 32769, 34310,
   34396, 36335, 38706, 39791, 40442, 30860, 31103, 32160, 33737, 37636, 40575, 35542, 22751,
   24324, 31840, 32894, 29282, 30922, 36034, 38647, 22744, 23650, 27155, 28122, 28431, 32047,
   32311, 38475, 21202, 32907, 20956, 20940, 31260, 32190, 33777, 38517, 35712, 25295, 27138,
   35582, 20025, 23527, 24594, 29575, 30064, 21271, 30971, 20415, 24489, 19981, 27852, 25976,
   32034, 21443, 22622, 30465, 33865, 35498, 27578, 36784, 27784, 25342, 33509, 25504, 30053,
   20142, 20841, 20937, 26753, 31975, 33391, 35538, 37327, 21237, 21570, 22899, 24300, 26053,
   28670, 31018, 38317, 39530, 40599, 40654, 21147, 26310, 27511, 36706, 24180, 24976, 25088,
   25754, 28451, 29001, 29833, 31178, 32244, 32879, 36646, 34030, 36899, 37706, 21015, 21155,
   21693, 28872, 35010, 35498, 24265, 24565, 25467, 27566, 31806, 29557, 20196, 22265, 23527,
   23994, 24604, 29618, 29801, 32666, 32838, 37428, 38646, 38728, 38936, 20363, 31150, 37300,
   38584, 24801, 20102, 20698, 23534, 23615, 26009, 27138, 29134, 30274, 34044, 36988, 40845,
   26248, 38446, 21129, 26491, 26611, 27969, 28316, 29705, 30041, 30827, 32016, 39006, 20845,
   25134, 38520, 20523, 23833, 28138, 36650, 24459, 24900, 26647, 29575, 38534, 21033, 21519,
   23653, 26131, 26446, 26792, 27877, 29702, 30178, 32633, 35023, 35041, 37324, 38626, 21311,
   28346, 21533, 29136, 29848, 34298, 38563, 40023, 40607, 26519, 28107, 33256, 31435, 31520,
   31890, 29376, 28825, 35672, 20160, 33590, 21050, 20999, 24230, 25299, 31958, 23429, 27934,
   26292, 36667, 34892, 38477, 35211, 24275, 20800, 21952]), (64016, [22618]), (64018, [26228]),
   (64021, [20958, 29482, 30410, 31036, 31070, 31077, 31119, 38742, 31934, 32701]),
   (64032, [34322]), (64034, [35576]), (64037, [36920, 37117]), (64042, [39151, 39164, 39208,
   40372, 37086, 38583, 20398, 20711, 20813, 21193, 21220, 21329, 21917, 22022, 22120, 22592,
   22696, 23652, 23662, 24724, 24936, 24974, 25074, 25935, 26082, 26257, 26757, 28023, 28186,
   28450, 29038, 29227, 29730, 30865, 31038, 31049, 31048, 31056, 31062, 31069, 31117, 31118,
   31296, 31361, 31680, 32244, 32265, 32321, 32626, 32773, 33261, 33401, 33401, 33879, 35088,
   35222, 35585, 35641, 36051, 36104, 36790, 36920, 38627, 38911, 38971, 24693, 148206, 33304]),
   (64112, [20006, 20917, 20840, 20352, 20805, 20864, 21191, 21242, 21917, 21845, 21913, 21986,
   22618, 22707, 22852, 22868, 23138, 23336, 24274, 24281, 24425, 24493, 24792, 24910, 24840,
   24974, 24928, 25074, 25140, 25540, 25628, 25682, 25942, 26228, 26391, 26395, 26454, 27513,
   27578, 27969, 28379, 28363, 28450, 28702, 29038, 30631, 29237, 29359, 29482, 29809, 29958,
   30011, 30237, 30239, 30410, 30427, 30452, 30538, 30528, 30924, 31409, 31680, 31867, 32091,
   32244, 32574, 32773, 33618, 33775, 34681, 35137, 35206, 35222, 35519, 35576, 35531, 35585,
   35582, 35565, 35641, 35722, 36104, 36664, 36978, 37273, 37494, 38524, 38627, 38742, 38875,
   38911, 38923, 38971, 39698, 40860, 141386, 141380, 144341, 15261, 16408, 16441, 152137, 154832,
   163539, 40771, 40846]), (64288, [1506, 1488, 1491, 1492, 1499, 1500, 1501, 1512, 1514]),
   (64336, [1649, 1649, 1659, 1659, 1659, 1659, 1662, 1662, 1662, 1662, 1664, 1664, 1664, 1664,
   1658, 1658, 1658, 1658, 1663, 1663, 1663, 1663, 1657, 1657, 1657, 1657, 1700, 1700, 1700, 1700,
   1702, 1702, 1702, 1702, 1668, 1668, 1668, 1668, 1667, 1667, 1667, 1667, 1670, 1670, 1670, 1670,
   1671, 1671, 1671, 1671, 1677, 1677, 1676, 1676, 1678, 1678, 1672, 1672, 1688, 1688, 1681, 1681,
   1705, 1705, 1705, 1705, 1711, 1711, 1711, 1711, 1715, 1715, 1715, 1715, 1713, 1713, 1713, 1713,
   1722, 1722, 1723, 1723, 1723, 1723]),
   (64422, [1729, 1729, 1729, 1729, 1726, 1726, 1726, 1726, 1746, 1746]),
   (64467, [1709, 1709, 1709, 1709, 1735, 1735, 1734, 1734, 1736, 1736]), (64478, [1739, 1739,
   1733, 1733, 1737, 1737, 1744, 1744, 1744, 1744, 1609, 1609]), (64508, [1740, 1740, 1740, 1740]),
   (65075, [95, 95]), (65101, [95, 95, 95]), (65152, [1569]), (65165, [1575, 1575, 1576, 1576,
   1576, 1576, 1577, 1577, 1578, 1578, 1578, 1578, 1579, 1579, 1579, 1579, 1580, 1580, 1580, 1580,
   1581, 1581, 1581, 1581, 1582, 1582, 1582, 1582, 1583, 1583, 1584, 1584, 1585, 1585, 1586, 1586,
   1587, 1587, 1587, 1587, 1588, 1588, 1588, 1588, 1589, 1589, 1589, 1589, 1590, 1590, 1590, 1590,
   1591, 1591, 1591, 1591, 1592, 1592, 1592, 1592, 1593, 1593, 1593, 1593, 1594, 1594, 1594, 1594,
   1601, 1601, 1601, 1601, 1602, 1602, 1602, 1602, 1603, 1603, 1603, 1603, 1604, 1604, 1604, 1604,
   1605, 1605, 1605, 1605, 1606, 1606, 1606, 1606, 1607, 1607, 1607, 1607, 1608, 1608, 1609, 1609,
   1610, 1610, 1610, 1610]), (65296, [48, 49, 50, 51, 52, 53, 54, 55, 56, 57]), (65313, [65, 66,
   67, 68, 69, 70, 71, 72, 73, 74, 75, 76, 77, 78, 79, 80, 81, 82, 83, 84, 85, 86, 87, 88, 89,
   90]), (65343, [95]), (65345, [97, 98, 99, 100, 101, 102, 103, 104, 105, 106, 107, 108, 109, 110,
   111, 112, 113, 114, 115, 116, 117, 118, 119, 120, 121, 122]), (65382, [12530, 12449, 12451,
   12453, 12455, 12457, 12515, 12517, 12519, 12483, 12540, 12450, 12452, 12454, 12456, 12458,
   12459, 12461, 12463, 12465, 12467, 12469, 12471, 12473, 12475, 12477, 12479, 12481, 12484,
   12486, 12488, 12490, 12491, 12492, 12493, 12494, 12495, 12498, 12501, 12504, 12507, 12510,
   12511, 12512, 12513, 12514, 12516, 12518, 12520, 12521, 12522, 12523, 12524, 12525, 12527,
   12531, 12441, 12442, 4448, 4352, 4353, 4522, 4354, 4524, 4525, 4355, 4356, 4357, 4528, 4529,
   4530, 4531, 4532, 4533, 4378, 4358, 4359, 4360, 4385, 4361, 4362, 4363, 4364, 4365, 4366, 4367,
   4368, 4369, 4370]), (65474, [4449, 4450, 4451, 4452, 4453, 4454]),
   (65482, [4455, 4456, 4457, 4458, 4459, 4460]), (65490, [4461, 4462, 4463, 4464, 4465, 4466]),
   (65498, [4467, 4468, 4469]), (67457, [720, 721, 230, 665, 595]), (67463, [675, 43878, 677, 676,
   598, 599, 7569, 600, 606, 681, 612, 610, 608, 667, 295, 668, 615, 644, 682, 683, 620, 122628,
   42894, 622, 122629, 654, 122630, 248, 630, 631, 113, 634, 122632, 637, 638, 640, 680, 678,
   43879, 679, 648, 11377]), (67506, [655, 673, 674, 664, 448, 449, 450, 122634, 122654]),
   (119808, [65, 66, 67, 68, 69, 70, 71, 72, 73, 74, 75, 76, 77, 78, 79, 80, 81, 82, 83, 84, 85,
   86, 87, 88, 89, 90, 97, 98, 99, 100, 101, 102, 103, 104, 105, 106, 107, 108, 109, 110, 111, 112,
   113, 114, 115, 116, 117, 118, 119, 120, 121, 122, 65, 66, 67, 68, 69, 70, 71, 72, 73, 74, 75,
   76, 77, 78, 79, 80, 81, 82, 83, 84, 85, 86, 87, 88, 89, 90, 97, 98, 99, 100, 101, 102, 103]),
   (119894, [105, 106, 107, 108, 109, 110, 111, 112, 113, 114, 115, 116, 117, 118, 119, 120, 121,
   122, 65, 66, 67, 68, 69, 70, 71, 72, 73, 74, 75, 76, 77, 78, 79, 80, 81, 82, 83, 84, 85, 86, 87,
   88, 89, 90, 97, 98, 99, 100, 101, 102, 103, 104, 105, 106, 107, 108, 109, 110, 111, 112, 113,
   114, 115, 116, 117, 118, 119, 120, 121, 122, 65]), (119966, [67, 68]), (119970, [71]),
   (119973, [74, 75]), (119977, [78, 79, 80, 81]), (119982, [83, 84, 85, 86, 87, 88, 89, 90, 97,
   98, 99, 100]), (119995, [102]), (119997, [104, 105, 106, 107, 108, 109, 110]), (120005, [112,
   113, 114, 115, 116, 117, 118, 119, 120, 121, 122, 65, 66, 67, 68, 69, 70, 71, 72, 73, 74, 75,
   76, 77, 78, 79, 80, 81, 82, 83, 84, 85, 86, 87, 88, 89, 90, 97, 98, 99, 100, 101, 102, 103, 104,
   105, 106, 107, 108, 109, 110, 111, 112, 113, 114, 115, 116, 117, 118, 119, 120, 121, 122, 65,
   66]), (120071, [68, 69, 70, 71]), (120077, [74, 75, 76, 77, 78, 79, 80, 81]),
   (120086, [83, 84, 85, 86, 87, 88, 89]), (120094, [97, 98, 99, 100, 101, 102, 103, 104, 105, 106,
   107, 108, 109, 110, 111, 112, 113, 114, 115, 116, 117, 118, 119, 120, 121, 122, 65, 66]),
   (120123, [68, 69, 70, 71]), (120128, [73, 74, 75, 76, 77]), (120134, [79]),
   (120138, [83, 84, 85, 86, 87, 88, 89]), (120146, [97, 98, 99, 100, 101, 102, 103, 104, 105, 106,
   107, 108, 109, 110, 111, 112, 113, 114, 115, 116, 117, 118, 119, 120, 121, 122, 65, 66, 67, 68,
   69, 70, 71, 72, 73, 74, 75, 76, 77, 78, 79, 80, 81, 82, 83, 84, 85, 86, 87, 88, 89, 90, 97, 98,
   99, 100, 101, 102, 103, 104, 105, 106, 107, 108, 109, 110, 111, 112, 113, 114, 115, 116, 117,
   118, 119, 120, 121, 122, 65, 66, 67, 68, 69, 70, 71, 72, 73, 74, 75, 76, 77, 78, 79, 80, 81, 82,
   83, 84, 85, 86, 87, 88, 89, 90, 97, 98, 99, 100, 101, 102, 103, 104, 105, 106, 107, 108, 109,
   110, 111, 112, 113, 114, 115, 116, 117, 118, 119, 120, 121, 122, 65, 66, 67, 68, 69, 70, 71, 72,
   73, 74, 75, 76, 77, 78, 79, 80, 81, 82, 83, 84, 85, 86, 87, 88, 89, 90, 97, 98, 99, 100, 101,
   102, 103, 104, 105, 106, 107, 108, 109, 110, 111, 112, 113, 114, 115, 116, 117, 118, 119, 120,
   121, 122, 65, 66, 67, 68, 69, 70, 71, 72, 73, 74, 75, 76, 77, 78, 79, 80, 81, 82, 83, 84, 85,
   86, 87, 88, 89, 90, 97, 98, 99, 100, 101, 102, 103, 104, 105, 106, 107, 108, 109, 110, 111, 112,
   113, 114, 115, 116, 117, 118, 119, 120, 121, 122, 65, 66, 67, 68, 69, 70, 71, 72, 73, 74, 75,
   76, 77, 78, 79, 80, 81, 82, 83, 84, 85, 86, 87, 88, 89, 90, 97, 98, 99, 100, 101, 102, 103, 104,
   105, 106, 107, 108, 109, 110, 111, 112, 113, 114, 115, 116, 117, 118, 119, 120, 121, 122, 65,
   66, 67, 68, 69, 70, 71, 72, 73, 74, 75, 76, 77, 78, 79, 80, 81, 82, 83, 84, 85, 86, 87, 88, 89,
   90, 97, 98, 99, 100, 101, 102, 103, 104, 105, 106, 107, 108, 109, 110, 111, 112, 113, 114, 115,
   116, 117, 118, 119, 120, 121, 122, 305, 567]), (120488, [913, 914, 915, 916, 917, 918, 919, 920,
   921, 922, 923, 924, 925, 926, 927, 928, 929, 920, 931, 932, 933, 934, 935, 936, 937]),
   (120514, [945, 946, 947, 948, 949, 950, 951, 952, 953, 954, 955, 956, 957, 958, 959, 960, 961,
   962, 963, 964, 965, 966, 967, 968, 969]), (120540, [949, 952, 954, 966, 961, 960, 913, 914, 915,
   916, 917, 918, 919, 920, 921, 922, 923, 924, 925, 926, 927, 928, 929, 920, 931, 932, 933, 934,
   935, 936, 937]), (120572, [945, 946, 947, 948, 949, 950, 951, 952, 953, 954, 955, 956, 957, 958,
   959, 960, 961, 962, 963, 964, 965, 966, 967, 968, 969]), (120598, [949, 952, 954, 966, 961, 960,
   913, 914, 915, 916, 917, 918, 919, 920, 921, 922, 923, 924, 925, 926, 927, 928, 929, 920, 931,
   932, 933, 934, 935, 936, 937]), (120630, [945, 946, 947, 948, 949, 950, 951, 952, 953, 954, 955,
   956, 957, 958, 959, 960, 961, 962, 963, 964, 965, 966, 967, 968, 969]), (120656, [949, 952, 954,
   966, 961, 960, 913, 914, 915, 916, 917, 918, 919, 920, 921, 922, 923, 924, 925, 926, 927, 928,
   929, 920, 931, 932, 933, 934, 935, 936, 937]), (120688, [945, 946, 947, 948, 949, 950, 951, 952,
   953, 954, 955, 956, 957, 958, 959, 960, 961, 962, 963, 964, 965, 966, 967, 968, 969]),
   (120714, [949, 952, 954, 966, 961, 960, 913, 914, 915, 916, 917, 918, 919, 920, 921, 922, 923,
   924, 925, 926, 927, 928, 929, 920, 931, 932, 933, 934, 935, 936, 937]), (120746, [945, 946, 947,
   948, 949, 950, 951, 952, 953, 954, 955, 956, 957, 958, 959, 960, 961, 962, 963, 964, 965, 966,
   967, 968, 969]), (120772, [949, 952, 954, 966, 961, 960, 988, 989]), (120782, [48, 49, 50, 51,
   52, 53, 54, 55, 56, 57, 48, 49, 50, 51, 52, 53, 54, 55, 56, 57, 48, 49, 50, 51, 52, 53, 54, 55,
   56, 57, 48, 49, 50, 51, 52, 53, 54, 55, 56, 57, 48, 49, 50, 51, 52, 53, 54, 55, 56, 57]),
   (126464, [1575, 1576, 1580, 1583]), (126469, [1608, 1586, 1581, 1591, 1610, 1603, 1604, 1605,
   1606, 1587, 1593, 1601, 1589, 1602, 1585, 1588, 1578, 1579, 1582, 1584, 1590, 1592, 1594, 1646,
   1722, 1697, 1647]), (126497, [1576, 1580]), (126500, [1607]), (126503, [1581]),
   (126505, [1610, 1603, 1604, 1605, 1606, 1587, 1593, 1601, 1589, 1602]),
   (126516, [1588, 1578, 1579, 1582]), (126521, [1590]), (126523, [1594]), (126530, [1580]),
   (126535, [1581]), (126537, [1610]), (126539, [1604]), (126541, [1606, 1587, 1593]),
   (126545, [1589, 1602]), (126548, [1588]), (126551, [1582]), (126553, [1590]), (126555, [1594]),
   (126557, [1722]), (126559, [1647]), (126561, [1576, 1580]), (126564, [1607]),
   (126567, [1581, 1591, 1610, 1603]), (126572, [1605, 1606, 1587, 1593, 1601, 1589, 1602]),
   (126580, [1588, 1578, 1579, 1582]), (126585, [1590, 1592, 1594, 1646]), (126590, [1697]),
   (126592, [1575, 1576, 1580, 1583, 1607, 1608, 1586, 1581, 1591, 1610]), (126603, [1604, 1605,
   1606, 1587, 1593, 1601, 1589, 1602, 1585, 1588, 1578, 1579, 1582, 1584, 1590, 1592, 1594]),
   (126625, [1576, 1580, 1583]), (126629, [1608, 1586, 1581, 1591, 1610]), (126635, [1604, 1605,
   1606, 1587, 1593, 1601, 1589, 1602, 1585, 1588, 1578, 1579, 1582, 1584, 1590, 1592, 1594]),
   (130032, [48, 49, 50, 51, 52, 53, 54, 55, 56, 57]), (194560, [20029, 20024, 20033, 131362,
   20320, 20398, 20411, 20482, 20602, 20633, 20711, 20687, 13470, 132666, 20813, 20820, 20836,
   20855, 132380, 13497, 20839, 20877, 132427, 20887, 20900, 20172, 20908, 20917, 168415, 20981,
   20995, 13535, 21051, 21062, 21106, 21111, 13589, 21191, 21193, 21220, 21242, 21253, 21254,
   21271, 21321, 21329, 21338, 21363, 21373, 21375, 21375, 21375, 133676, 28784, 21450, 21471,
   133987, 21483, 21489, 21510, 21662, 21560, 21576, 21608, 21666, 21750, 21776, 21843, 21859,
   21892, 21892, 21913, 21931, 21939, 21954, 22294, 22022, 22295, 22097, 22132, 20999, 22766,
   22478, 22516, 22541, 22411, 22578, 22577, 22700, 136420, 22770, 22775, 22790, 22810, 22818,
   22882, 136872, 136938, 23020, 23067, 23079, 23000, 23142, 14062, 14076, 23304, 23358, 23358,
   137672, 23491, 23512, 23527, 23539, 138008, 23551, 23558, 24403, 23586, 14209, 23648, 23662,
   23744, 23693, 138724, 23875, 138726, 23918, 23915, 23932, 24033, 24034, 14383, 24061, 24104,
   24125, 24169, 14434, 139651, 14460, 24240, 24243, 24246, 24266, 172946, 24318, 140081, 140081,
   33281, 24354, 24354, 14535, 144056, 156122, 24418, 24427, 14563, 24474, 24525, 24535, 24569,
   24705, 14650, 14620, 24724, 141012, 24775, 24904, 24908, 24910, 24908, 24954, 24974, 25010,
   24996, 25007, 25054, 25074, 25078, 25104, 25115, 25181, 25265, 25300, 25424, 142092, 25405,
   25340, 25448, 25475, 25572, 142321, 25634, 25541, 25513, 14894, 25705, 25726, 25757, 25719,
   14956, 25935, 25964, 143370, 26083, 26360, 26185, 15129, 26257, 15112, 15076, 20882, 20885,
   26368, 26268, 32941, 17369, 26391, 26395, 26401, 26462, 26451, 144323, 15177, 26618, 26501,
   26706, 26757, 144493, 26766, 26655, 26900, 15261, 26946, 27043, 27114, 27304, 145059, 27355,
   15384, 27425, 145575, 27476, 15438, 27506, 27551, 27578, 27579, 146061, 138507, 146170, 27726,
   146620, 27839, 27853, 27751, 27926, 27966, 28023, 27969, 28009, 28024, 28037, 146718, 27956,
   28207, 28270, 15667, 28363, 28359, 147153, 28153, 28526, 147294, 147342, 28614, 28729, 28702,
   28699, 15766, 28746, 28797, 28791, 28845, 132389, 28997, 148067, 29084, 148395, 29224, 29237,
   29264, 149000, 29312, 29333, 149301, 149524, 29562, 29579, 16044, 29605, 16056, 16056, 29767,
   29788, 29809, 29829, 29898, 16155, 29988, 150582, 30014, 150674, 30064, 139679, 30224, 151457,
   151480, 151620, 16380, 16392, 30452, 151795, 151794, 151833, 151859, 30494, 30495, 30495, 30538,
   16441, 30603, 16454, 16534, 152605, 30798, 30860, 30924, 16611, 153126, 31062, 153242, 153285,
   31119, 31211, 16687, 31296, 31306, 31311, 153980, 154279, 154279, 31470, 16898, 154539, 31686,
   31689, 16935, 154752, 31954, 17056, 31976, 31971, 32000, 155526, 32099, 17153, 32199, 32258,
   32325, 17204, 156200, 156231, 17241, 156377, 32634, 156478, 32661, 32762, 32773, 156890, 156963,
   32864, 157096, 32880, 144223, 17365, 32946, 33027, 17419, 33086, 23221, 157607, 157621, 144275,
   144284, 33281, 33284, 36766, 17515, 33425, 33419, 33437, 21171, 33457, 33459, 33469, 33510,
   158524, 33509, 33565, 33635, 33709, 33571, 33725, 33767, 33879, 33619, 33738, 33740, 33756,
   158774, 159083, 158933, 17707, 34033, 34035, 34070, 160714, 34148, 159532, 17757, 17761, 159665,
   159954, 17771, 34384, 34396, 34407, 34409, 34473, 34440, 34574, 34530, 34681, 34600, 34667,
   34694, 17879, 34785, 34817, 17913, 34912, 34915, 161383, 35031, 35038, 17973, 35066, 13499,
   161966, 162150, 18110, 18119, 35488, 35565, 35722, 35925, 162984, 36011, 36033, 36123, 36215,
   163631, 133124, 36299, 36284, 36336, 133342, 36564, 36664, 165330, 165357, 37012, 37105, 37137,
   165678, 37147, 37432, 37591, 37592, 37500, 37881, 37909, 166906, 38283, 18837, 38327, 167287,
   18918, 38595, 23986, 38691, 168261, 168474, 19054, 19062, 38880, 168970, 19122, 169110, 38923,
   38923, 38953, 169398, 39138, 19251, 39209, 39335, 39362, 39422, 19406, 170800, 39698, 40000,
   40189, 19662, 19693, 40295, 172238, 19704, 172293, 172558, 172689, 40635, 19798, 40697, 40702,
   40709, 40719, 40726, 40763, 173568])]

end CodeLint.Text
