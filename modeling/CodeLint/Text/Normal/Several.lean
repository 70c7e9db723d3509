/-!
Characters of names whose compatibility decomposition (Unicode 14) is a row of characters. A row
of the table gives the first of a run of characters and what each of them decomposes to.
-/

set_option maxRecDepth 20000

namespace CodeLint.Text

def severalForms : List (Nat × List (List Nat)) :=
  [(192, [[65, 768], [65, 769], [65, 770], [65, 771], [65, 776], [65, 778]]), (199, [[67, 807],
   [69, 768], [69, 769], [69, 770], [69, 776], [73, 768], [73, 769], [73, 770], [73, 776]]),
   (209, [[78, 771], [79, 768], [79, 769], [79, 770], [79, 771], [79, 776]]), (217, [[85, 768],
   [85, 769], [85, 770], [85, 776], [89, 769]]), (224, [[97, 768], [97, 769], [97, 770], [97, 771],
   [97, 776], [97, 778]]), (231, [[99, 807], [101, 768], [101, 769], [101, 770], [101, 776],
   [105, 768], [105, 769], [105, 770], [105, 776]]), (241, [[110, 771], [111, 768], [111, 769],
   [111, 770], [111, 771], [111, 776]]), (249, [[117, 768], [117, 769], [117, 770], [117, 776],
   [121, 769]]), (255, [[121, 776], [65, 772], [97, 772], [65, 774], [97, 774], [65, 808],
   [97, 808], [67, 769], [99, 769], [67, 770], [99, 770], [67, 775], [99, 775], [67, 780],
   [99, 780], [68, 780], [100, 780]]), (274, [[69, 772], [101, 772], [69, 774], [101, 774],
   [69, 775], [101, 775], [69, 808], [101, 808], [69, 780], [101, 780], [71, 770], [103, 770],
   [71, 774], [103, 774], [71, 775], [103, 775], [71, 807], [103, 807], [72, 770], [104, 770]]),
   (296, [[73, 771], [105, 771], [73, 772], [105, 772], [73, 774], [105, 774], [73, 808],
   [105, 808], [73, 775]]), (306, [[73, 74], [105, 106], [74, 770], [106, 770], [75, 807],
   [107, 807]]), (313, [[76, 769], [108, 769], [76, 807], [108, 807], [76, 780], [108, 780],
   [76, 183], [108, 183]]), (323, [[78, 769], [110, 769], [78, 807], [110, 807], [78, 780],
   [110, 780], [700, 110]]), (332, [[79, 772], [111, 772], [79, 774], [111, 774], [79, 779],
   [111, 779]]), (340, [[82, 769], [114, 769], [82, 807], [114, 807], [82, 780], [114, 780],
   [83, 769], [115, 769], [83, 770], [115, 770], [83, 807], [115, 807], [83, 780], [115, 780],
   [84, 807], [116, 807], [84, 780], [116, 780]]), (360, [[85, 771], [117, 771], [85, 772],
   [117, 772], [85, 774], [117, 774], [85, 778], [117, 778], [85, 779], [117, 779], [85, 808],
   [117, 808], [87, 770], [119, 770], [89, 770], [121, 770], [89, 776], [90, 769], [122, 769],
   [90, 775], [122, 775], [90, 780], [122, 780]]), (416, [[79, 795], [111, 795]]),
   (431, [[85, 795], [117, 795]]), (452, [[68, 90, 780], [68, 122, 780], [100, 122, 780], [76, 74],
   [76, 106], [108, 106], [78, 74], [78, 106], [110, 106], [65, 780], [97, 780], [73, 780],
   [105, 780], [79, 780], [111, 780], [85, 780], [117, 780], [85, 776, 772], [117, 776, 772],
   [85, 776, 769], [117, 776, 769], [85, 776, 780], [117, 776, 780], [85, 776, 768],
   [117, 776, 768]]), (478, [[65, 776, 772], [97, 776, 772], [65, 775, 772], [97, 775, 772],
   [198, 772], [230, 772]]), (486, [[71, 780], [103, 780], [75, 780], [107, 780], [79, 808],
   [111, 808], [79, 808, 772], [111, 808, 772], [439, 780], [658, 780], [106, 780], [68, 90],
   [68, 122], [100, 122], [71, 769], [103, 769]]), (504, [[78, 768], [110, 768], [65, 778, 769],
   [97, 778, 769], [198, 769], [230, 769], [216, 769], [248, 769], [65, 783], [97, 783], [65, 785],
   [97, 785], [69, 783], [101, 783], [69, 785], [101, 785], [73, 783], [105, 783], [73, 785],
   [105, 785], [79, 783], [111, 783], [79, 785], [111, 785], [82, 783], [114, 783], [82, 785],
   [114, 785], [85, 783], [117, 783], [85, 785], [117, 785], [83, 806], [115, 806], [84, 806],
   [116, 806]]), (542, [[72, 780], [104, 780]]), (550, [[65, 775], [97, 775], [69, 807],
   [101, 807], [79, 776, 772], [111, 776, 772], [79, 771, 772], [111, 771, 772], [79, 775],
   [111, 775], [79, 775, 772], [111, 775, 772], [89, 772], [121, 772]]), (836, [[776, 769]]),
   (902, [[913, 769]]), (904, [[917, 769], [919, 769], [921, 769]]), (908, [[927, 769]]),
   (910, [[933, 769], [937, 769], [953, 776, 769]]), (938, [[921, 776], [933, 776], [945, 769],
   [949, 769], [951, 769], [953, 769], [965, 776, 769]]), (970, [[953, 776], [965, 776],
   [959, 769], [965, 769], [969, 769]]), (979, [[933, 769], [933, 776]]), (1024, [[1045, 768],
   [1045, 776]]), (1027, [[1043, 769]]), (1031, [[1030, 776]]), (1036, [[1050, 769], [1048, 768],
   [1059, 774]]), (1049, [[1048, 774]]), (1081, [[1080, 774]]), (1104, [[1077, 768], [1077, 776]]),
   (1107, [[1075, 769]]), (1111, [[1110, 776]]), (1116, [[1082, 769], [1080, 768], [1091, 774]]),
   (1142, [[1140, 783], [1141, 783]]), (1217, [[1046, 774], [1078, 774]]), (1232, [[1040, 774],
   [1072, 774], [1040, 776], [1072, 776]]), (1238, [[1045, 774], [1077, 774]]),
   (1242, [[1240, 776], [1241, 776], [1046, 776], [1078, 776], [1047, 776], [1079, 776]]),
   (1250, [[1048, 772], [1080, 772], [1048, 776], [1080, 776], [1054, 776], [1086, 776]]),
   (1258, [[1256, 776], [1257, 776], [1069, 776], [1101, 776], [1059, 772], [1091, 772],
   [1059, 776], [1091, 776], [1059, 779], [1091, 779], [1063, 776], [1095, 776]]),
   (1272, [[1067, 776], [1099, 776]]), (1415, [[1381, 1410]]), (1570, [[1575, 1619], [1575, 1620],
   [1608, 1620], [1575, 1621], [1610, 1620]]), (1653, [[1575, 1652], [1608, 1652], [1735, 1652],
   [1610, 1652]]), (1728, [[1749, 1620]]), (1730, [[1729, 1620]]), (1747, [[1746, 1620]]),
   (2345, [[2344, 2364]]), (2353, [[2352, 2364]]), (2356, [[2355, 2364]]), (2392, [[2325, 2364],
   [2326, 2364], [2327, 2364], [2332, 2364], [2337, 2364], [2338, 2364], [2347, 2364],
   [2351, 2364]]), (2507, [[2503, 2494], [2503, 2519]]), (2524, [[2465, 2492], [2466, 2492]]),
   (2527, [[2479, 2492]]), (2611, [[2610, 2620]]), (2614, [[2616, 2620]]), (2649, [[2582, 2620],
   [2583, 2620], [2588, 2620]]), (2654, [[2603, 2620]]), (2888, [[2887, 2902]]),
   (2891, [[2887, 2878], [2887, 2903]]), (2908, [[2849, 2876], [2850, 2876]]),
   (2964, [[2962, 3031]]), (3018, [[3014, 3006], [3015, 3006], [3014, 3031]]),
   (3144, [[3142, 3158]]), (3264, [[3263, 3285]]), (3271, [[3270, 3285], [3270, 3286]]),
   (3274, [[3270, 3266], [3270, 3266, 3285]]), (3402, [[3398, 3390], [3399, 3390], [3398, 3415]]),
   (3546, [[3545, 3530]]), (3548, [[3545, 3535], [3545, 3535, 3530], [3545, 3551]]),
   (3635, [[3661, 3634]]), (3763, [[3789, 3762]]), (3804, [[3755, 3737], [3755, 3745]]),
   (3907, [[3906, 4023]]), (3917, [[3916, 4023]]), (3922, [[3921, 4023]]), (3927, [[3926, 4023]]),
   (3932, [[3931, 4023]]), (3945, [[3904, 4021]]), (3955, [[3953, 3954]]), (3957, [[3953, 3956],
   [4018, 3968], [4018, 3953, 3968], [4019, 3968], [4019, 3953, 3968]]), (3969, [[3953, 3968]]),
   (3987, [[3986, 4023]]), (3997, [[3996, 4023]]), (4002, [[4001, 4023]]), (4007, [[4006, 4023]]),
   (4012, [[4011, 4023]]), (4025, [[3984, 4021]]), (4134, [[4133, 4142]]), (6918, [[6917, 6965]]),
   (6920, [[6919, 6965]]), (6922, [[6921, 6965]]), (6924, [[6923, 6965]]), (6926, [[6925, 6965]]),
   (6930, [[6929, 6965]]), (6971, [[6970, 6965]]), (6973, [[6972, 6965]]), (6976, [[6974, 6965],
   [6975, 6965]]), (6979, [[6978, 6965]]), (7680, [[65, 805], [97, 805], [66, 775], [98, 775],
   [66, 803], [98, 803], [66, 817], [98, 817], [67, 807, 769], [99, 807, 769], [68, 775],
   [100, 775], [68, 803], [100, 803], [68, 817], [100, 817], [68, 807], [100, 807], [68, 813],
   [100, 813], [69, 772, 768], [101, 772, 768], [69, 772, 769], [101, 772, 769], [69, 813],
   [101, 813], [69, 816], [101, 816], [69, 807, 774], [101, 807, 774], [70, 775], [102, 775],
   [71, 772], [103, 772], [72, 775], [104, 775], [72, 803], [104, 803], [72, 776], [104, 776],
   [72, 807], [104, 807], [72, 814], [104, 814], [73, 816], [105, 816], [73, 776, 769],
   [105, 776, 769], [75, 769], [107, 769], [75, 803], [107, 803], [75, 817], [107, 817], [76, 803],
   [108, 803], [76, 803, 772], [108, 803, 772], [76, 817], [108, 817], [76, 813], [108, 813],
   [77, 769], [109, 769], [77, 775], [109, 775], [77, 803], [109, 803], [78, 775], [110, 775],
   [78, 803], [110, 803], [78, 817], [110, 817], [78, 813], [110, 813], [79, 771, 769],
   [111, 771, 769], [79, 771, 776], [111, 771, 776], [79, 772, 768], [111, 772, 768],
   [79, 772, 769], [111, 772, 769], [80, 769], [112, 769], [80, 775], [112, 775], [82, 775],
   [114, 775], [82, 803], [114, 803], [82, 803, 772], [114, 803, 772], [82, 817], [114, 817],
   [83, 775], [115, 775], [83, 803], [115, 803], [83, 769, 775], [115, 769, 775], [83, 780, 775],
   [115, 780, 775], [83, 803, 775], [115, 803, 775], [84, 775], [116, 775], [84, 803], [116, 803],
   [84, 817], [116, 817], [84, 813], [116, 813], [85, 804], [117, 804], [85, 816], [117, 816],
   [85, 813], [117, 813], [85, 771, 769], [117, 771, 769], [85, 772, 776], [117, 772, 776],
   [86, 771], [118, 771], [86, 803], [118, 803], [87, 768], [119, 768], [87, 769], [119, 769],
   [87, 776], [119, 776], [87, 775], [119, 775], [87, 803], [119, 803], [88, 775], [120, 775],
   [88, 776], [120, 776], [89, 775], [121, 775], [90, 770], [122, 770], [90, 803], [122, 803],
   [90, 817], [122, 817], [104, 817], [116, 776], [119, 778], [121, 778], [97, 702], [115, 775]]),
   (7840, [[65, 803], [97, 803], [65, 777], [97, 777], [65, 770, 769], [97, 770, 769],
   [65, 770, 768], [97, 770, 768], [65, 770, 777], [97, 770, 777], [65, 770, 771], [97, 770, 771],
   [65, 803, 770], [97, 803, 770], [65, 774, 769], [97, 774, 769], [65, 774, 768], [97, 774, 768],
   [65, 774, 777], [97, 774, 777], [65, 774, 771], [97, 774, 771], [65, 803, 774], [97, 803, 774],
   [69, 803], [101, 803], [69, 777], [101, 777], [69, 771], [101, 771], [69, 770, 769],
   [101, 770, 769], [69, 770, 768], [101, 770, 768], [69, 770, 777], [101, 770, 777],
   [69, 770, 771], [101, 770, 771], [69, 803, 770], [101, 803, 770], [73, 777], [105, 777],
   [73, 803], [105, 803], [79, 803], [111, 803], [79, 777], [111, 777], [79, 770, 769],
   [111, 770, 769], [79, 770, 768], [111, 770, 768], [79, 770, 777], [111, 770, 777],
   [79, 770, 771], [111, 770, 771], [79, 803, 770], [111, 803, 770], [79, 795, 769],
   [111, 795, 769], [79, 795, 768], [111, 795, 768], [79, 795, 777], [111, 795, 777],
   [79, 795, 771], [111, 795, 771], [79, 795, 803], [111, 795, 803], [85, 803], [117, 803],
   [85, 777], [117, 777], [85, 795, 769], [117, 795, 769], [85, 795, 768], [117, 795, 768],
   [85, 795, 777], [117, 795, 777], [85, 795, 771], [117, 795, 771], [85, 795, 803],
   [117, 795, 803], [89, 768], [121, 768], [89, 803], [121, 803], [89, 777], [121, 777], [89, 771],
   [121, 771]]), (7936, [[945, 787], [945, 788], [945, 787, 768], [945, 788, 768], [945, 787, 769],
   [945, 788, 769], [945, 787, 834], [945, 788, 834], [913, 787], [913, 788], [913, 787, 768],
   [913, 788, 768], [913, 787, 769], [913, 788, 769], [913, 787, 834], [913, 788, 834], [949, 787],
   [949, 788], [949, 787, 768], [949, 788, 768], [949, 787, 769], [949, 788, 769]]),
   (7960, [[917, 787], [917, 788], [917, 787, 768], [917, 788, 768], [917, 787, 769],
   [917, 788, 769]]), (7968, [[951, 787], [951, 788], [951, 787, 768], [951, 788, 768],
   [951, 787, 769], [951, 788, 769], [951, 787, 834], [951, 788, 834], [919, 787], [919, 788],
   [919, 787, 768], [919, 788, 768], [919, 787, 769], [919, 788, 769], [919, 787, 834],
   [919, 788, 834], [953, 787], [953, 788], [953, 787, 768], [953, 788, 768], [953, 787, 769],
   [953, 788, 769], [953, 787, 834], [953, 788, 834], [921, 787], [921, 788], [921, 787, 768],
   [921, 788, 768], [921, 787, 769], [921, 788, 769], [921, 787, 834], [921, 788, 834], [959, 787],
   [959, 788], [959, 787, 768], [959, 788, 768], [959, 787, 769], [959, 788, 769]]),
   (8008, [[927, 787], [927, 788], [927, 787, 768], [927, 788, 768], [927, 787, 769],
   [927, 788, 769]]), (8016, [[965, 787], [965, 788], [965, 787, 768], [965, 788, 768],
   [965, 787, 769], [965, 788, 769], [965, 787, 834], [965, 788, 834]]), (8025, [[933, 788]]),
   (8027, [[933, 788, 768]]), (8029, [[933, 788, 769]]), (8031, [[933, 788, 834], [969, 787],
   [969, 788], [969, 787, 768], [969, 788, 768], [969, 787, 769], [969, 788, 769], [969, 787, 834],
   [969, 788, 834], [937, 787], [937, 788], [937, 787, 768], [937, 788, 768], [937, 787, 769],
   [937, 788, 769], [937, 787, 834], [937, 788, 834], [945, 768], [945, 769], [949, 768],
   [949, 769], [951, 768], [951, 769], [953, 768], [953, 769], [959, 768], [959, 769], [965, 768],
   [965, 769], [969, 768], [969, 769]]), (8064, [[945, 787, 837], [945, 788, 837],
   [945, 787, 768, 837], [945, 788, 768, 837], [945, 787, 769, 837], [945, 788, 769, 837],
   [945, 787, 834, 837], [945, 788, 834, 837], [913, 787, 837], [913, 788, 837],
   [913, 787, 768, 837], [913, 788, 768, 837], [913, 787, 769, 837], [913, 788, 769, 837],
   [913, 787, 834, 837], [913, 788, 834, 837], [951, 787, 837], [951, 788, 837],
   [951, 787, 768, 837], [951, 788, 768, 837], [951, 787, 769, 837], [951, 788, 769, 837],
   [951, 787, 834, 837], [951, 788, 834, 837], [919, 787, 837], [919, 788, 837],
   [919, 787, 768, 837], [919, 788, 768, 837], [919, 787, 769, 837], [919, 788, 769, 837],
   [919, 787, 834, 837], [919, 788, 834, 837], [969, 787, 837], [969, 788, 837],
   [969, 787, 768, 837], [969, 788, 768, 837], [969, 787, 769, 837], [969, 788, 769, 837],
   [969, 787, 834, 837], [969, 788, 834, 837], [937, 787, 837], [937, 788, 837],
   [937, 787, 768, 837], [937, 788, 768, 837], [937, 787, 769, 837], [937, 788, 769, 837],
   [937, 787, 834, 837], [937, 788, 834, 837], [945, 774], [945, 772], [945, 768, 837], [945, 837],
   [945, 769, 837]]), (8118, [[945, 834], [945, 834, 837], [913, 774], [913, 772], [913, 768],
   [913, 769], [913, 837]]), (8130, [[951, 768, 837], [951, 837], [951, 769, 837]]),
   (8134, [[951, 834], [951, 834, 837], [917, 768], [917, 769], [919, 768], [919, 769],
   [919, 837]]), (8144, [[953, 774], [953, 772], [953, 776, 768], [953, 776, 769]]),
   (8150, [[953, 834], [953, 776, 834], [921, 774], [921, 772], [921, 768], [921, 769]]),
   (8160, [[965, 774], [965, 772], [965, 776, 768], [965, 776, 769], [961, 787], [961, 788],
   [965, 834], [965, 776, 834], [933, 774], [933, 772], [933, 768], [933, 769], [929, 788]]),
   (8178, [[969, 768, 837], [969, 837], [969, 769, 837]]), (8182, [[969, 834], [969, 834, 837],
   [927, 768], [927, 769], [937, 768], [937, 769], [937, 837]]), (8491, [[65, 778]]),
   (8545, [[73, 73], [73, 73, 73], [73, 86]]), (8549, [[86, 73], [86, 73, 73], [86, 73, 73, 73],
   [73, 88]]), (8554, [[88, 73], [88, 73, 73]]), (8561, [[105, 105], [105, 105, 105], [105, 118]]),
   (8565, [[118, 105], [118, 105, 105], [118, 105, 105, 105], [105, 120]]), (8570, [[120, 105],
   [120, 105, 105]]), (12364, [[12363, 12441]]), (12366, [[12365, 12441]]),
   (12368, [[12367, 12441]]), (12370, [[12369, 12441]]), (12372, [[12371, 12441]]),
   (12374, [[12373, 12441]]), (12376, [[12375, 12441]]), (12378, [[12377, 12441]]),
   (12380, [[12379, 12441]]), (12382, [[12381, 12441]]), (12384, [[12383, 12441]]),
   (12386, [[12385, 12441]]), (12389, [[12388, 12441]]), (12391, [[12390, 12441]]),
   (12393, [[12392, 12441]]), (12400, [[12399, 12441], [12399, 12442]]), (12403, [[12402, 12441],
   [12402, 12442]]), (12406, [[12405, 12441], [12405, 12442]]), (12409, [[12408, 12441],
   [12408, 12442]]), (12412, [[12411, 12441], [12411, 12442]]), (12436, [[12358, 12441]]),
   (12446, [[12445, 12441], [12424, 12426]]), (12460, [[12459, 12441]]), (12462, [[12461, 12441]]),
   (12464, [[12463, 12441]]), (12466, [[12465, 12441]]), (12468, [[12467, 12441]]),
   (12470, [[12469, 12441]]), (12472, [[12471, 12441]]), (12474, [[12473, 12441]]),
   (12476, [[12475, 12441]]), (12478, [[12477, 12441]]), (12480, [[12479, 12441]]),
   (12482, [[12481, 12441]]), (12485, [[12484, 12441]]), (12487, [[12486, 12441]]),
   (12489, [[12488, 12441]]), (12496, [[12495, 12441], [12495, 12442]]), (12499, [[12498, 12441],
   [12498, 12442]]), (12502, [[12501, 12441], [12501, 12442]]), (12505, [[12504, 12441],
   [12504, 12442]]), (12508, [[12507, 12441], [12507, 12442]]), (12532, [[12454, 12441]]),
   (12535, [[12527, 12441], [12528, 12441], [12529, 12441], [12530, 12441]]),
   (12542, [[12541, 12441], [12467, 12488]]), (64256, [[102, 102], [102, 105], [102, 108],
   [102, 102, 105], [102, 102, 108], [115, 116], [115, 116]]), (64275, [[1396, 1398], [1396, 1381],
   [1396, 1387], [1406, 1398], [1396, 1389]]), (64285, [[1497, 1460]]), (64287, [[1522, 1463]]),
   (64298, [[1513, 1473], [1513, 1474], [1513, 1468, 1473], [1513, 1468, 1474], [1488, 1463],
   [1488, 1464], [1488, 1468], [1489, 1468], [1490, 1468], [1491, 1468], [1492, 1468],
   [1493, 1468], [1494, 1468]]), (64312, [[1496, 1468], [1497, 1468], [1498, 1468], [1499, 1468],
   [1500, 1468]]), (64318, [[1502, 1468]]), (64320, [[1504, 1468], [1505, 1468]]),
   (64323, [[1507, 1468], [1508, 1468]]), (64326, [[1510, 1468], [1511, 1468], [1512, 1468],
   [1513, 1468], [1514, 1468], [1493, 1465], [1489, 1471], [1499, 1471], [1508, 1471],
   [1488, 1500]]), (64420, [[1749, 1620], [1749, 1620]]), (64432, [[1746, 1620], [1746, 1620]]),
   (64477, [[1735, 1652]]), (64490, [[1610, 1620, 1575], [1610, 1620, 1575], [1610, 1620, 1749],
   [1610, 1620, 1749], [1610, 1620, 1608], [1610, 1620, 1608], [1610, 1620, 1735],
   [1610, 1620, 1735], [1610, 1620, 1734], [1610, 1620, 1734], [1610, 1620, 1736],
   [1610, 1620, 1736], [1610, 1620, 1744], [1610, 1620, 1744], [1610, 1620, 1744],
   [1610, 1620, 1609], [1610, 1620, 1609], [1610, 1620, 1609]]), (64512, [[1610, 1620, 1580],
   [1610, 1620, 1581], [1610, 1620, 1605], [1610, 1620, 1609], [1610, 1620, 1610], [1576, 1580],
   [1576, 1581], [1576, 1582], [1576, 1605], [1576, 1609], [1576, 1610], [1578, 1580],
   [1578, 1581], [1578, 1582], [1578, 1605], [1578, 1609], [1578, 1610], [1579, 1580],
   [1579, 1605], [1579, 1609], [1579, 1610], [1580, 1581], [1580, 1605], [1581, 1580],
   [1581, 1605], [1582, 1580], [1582, 1581], [1582, 1605], [1587, 1580], [1587, 1581],
   [1587, 1582], [1587, 1605], [1589, 1581], [1589, 1605], [1590, 1580], [1590, 1581],
   [1590, 1582], [1590, 1605], [1591, 1581], [1591, 1605], [1592, 1605], [1593, 1580],
   [1593, 1605], [1594, 1580], [1594, 1605], [1601, 1580], [1601, 1581], [1601, 1582],
   [1601, 1605], [1601, 1609], [1601, 1610], [1602, 1581], [1602, 1605], [1602, 1609],
   [1602, 1610], [1603, 1575], [1603, 1580], [1603, 1581], [1603, 1582], [1603, 1604],
   [1603, 1605], [1603, 1609], [1603, 1610], [1604, 1580], [1604, 1581], [1604, 1582],
   [1604, 1605], [1604, 1609], [1604, 1610], [1605, 1580], [1605, 1581], [1605, 1582],
   [1605, 1605], [1605, 1609], [1605, 1610], [1606, 1580], [1606, 1581], [1606, 1582],
   [1606, 1605], [1606, 1609], [1606, 1610], [1607, 1580], [1607, 1605], [1607, 1609],
   [1607, 1610], [1610, 1580], [1610, 1581], [1610, 1582], [1610, 1605], [1610, 1609],
   [1610, 1610], [1584, 1648], [1585, 1648], [1609, 1648]]), (64612, [[1610, 1620, 1585],
   [1610, 1620, 1586], [1610, 1620, 1605], [1610, 1620, 1606], [1610, 1620, 1609],
   [1610, 1620, 1610], [1576, 1585], [1576, 1586], [1576, 1605], [1576, 1606], [1576, 1609],
   [1576, 1610], [1578, 1585], [1578, 1586], [1578, 1605], [1578, 1606], [1578, 1609],
   [1578, 1610], [1579, 1585], [1579, 1586], [1579, 1605], [1579, 1606], [1579, 1609],
   [1579, 1610], [1601, 1609], [1601, 1610], [1602, 1609], [1602, 1610], [1603, 1575],
   [1603, 1604], [1603, 1605], [1603, 1609], [1603, 1610], [1604, 1605], [1604, 1609],
   [1604, 1610], [1605, 1575], [1605, 1605], [1606, 1585], [1606, 1586], [1606, 1605],
   [1606, 1606], [1606, 1609], [1606, 1610], [1609, 1648], [1610, 1585], [1610, 1586],
   [1610, 1605], [1610, 1606], [1610, 1609], [1610, 1610], [1610, 1620, 1580], [1610, 1620, 1581],
   [1610, 1620, 1582], [1610, 1620, 1605], [1610, 1620, 1607], [1576, 1580], [1576, 1581],
   [1576, 1582], [1576, 1605], [1576, 1607], [1578, 1580], [1578, 1581], [1578, 1582],
   [1578, 1605], [1578, 1607], [1579, 1605], [1580, 1581], [1580, 1605], [1581, 1580],
   [1581, 1605], [1582, 1580], [1582, 1605], [1587, 1580], [1587, 1581], [1587, 1582],
   [1587, 1605], [1589, 1581], [1589, 1582], [1589, 1605], [1590, 1580], [1590, 1581],
   [1590, 1582], [1590, 1605], [1591, 1581], [1592, 1605], [1593, 1580], [1593, 1605],
   [1594, 1580], [1594, 1605], [1601, 1580], [1601, 1581], [1601, 1582], [1601, 1605],
   [1602, 1581], [1602, 1605], [1603, 1580], [1603, 1581], [1603, 1582], [1603, 1604],
   [1603, 1605], [1604, 1580], [1604, 1581], [1604, 1582], [1604, 1605], [1604, 1607],
   [1605, 1580], [1605, 1581], [1605, 1582], [1605, 1605], [1606, 1580], [1606, 1581],
   [1606, 1582], [1606, 1605], [1606, 1607], [1607, 1580], [1607, 1605], [1607, 1648],
   [1610, 1580], [1610, 1581], [1610, 1582], [1610, 1605], [1610, 1607], [1610, 1620, 1605],
   [1610, 1620, 1607], [1576, 1605], [1576, 1607], [1578, 1605], [1578, 1607], [1579, 1605],
   [1579, 1607], [1587, 1605], [1587, 1607], [1588, 1605], [1588, 1607], [1603, 1604],
   [1603, 1605], [1604, 1605], [1606, 1605], [1606, 1607], [1610, 1605], [1610, 1607],
   [1600, 1614, 1617], [1600, 1615, 1617], [1600, 1616, 1617], [1591, 1609], [1591, 1610],
   [1593, 1609], [1593, 1610], [1594, 1609], [1594, 1610], [1587, 1609], [1587, 1610],
   [1588, 1609], [1588, 1610], [1581, 1609], [1581, 1610], [1580, 1609], [1580, 1610],
   [1582, 1609], [1582, 1610], [1589, 1609], [1589, 1610], [1590, 1609], [1590, 1610],
   [1588, 1580], [1588, 1581], [1588, 1582], [1588, 1605], [1588, 1585], [1587, 1585],
   [1589, 1585], [1590, 1585], [1591, 1609], [1591, 1610], [1593, 1609], [1593, 1610],
   [1594, 1609], [1594, 1610], [1587, 1609], [1587, 1610], [1588, 1609], [1588, 1610],
   [1581, 1609], [1581, 1610], [1580, 1609], [1580, 1610], [1582, 1609], [1582, 1610],
   [1589, 1609], [1589, 1610], [1590, 1609], [1590, 1610], [1588, 1580], [1588, 1581],
   [1588, 1582], [1588, 1605], [1588, 1585], [1587, 1585], [1589, 1585], [1590, 1585],
   [1588, 1580], [1588, 1581], [1588, 1582], [1588, 1605], [1587, 1607], [1588, 1607],
   [1591, 1605], [1587, 1580], [1587, 1581], [1587, 1582], [1588, 1580], [1588, 1581],
   [1588, 1582], [1591, 1605], [1592, 1605], [1575, 1611], [1575, 1611]]),
   (64848, [[1578, 1580, 1605], [1578, 1581, 1580], [1578, 1581, 1580], [1578, 1581, 1605],
   [1578, 1582, 1605], [1578, 1605, 1580], [1578, 1605, 1581], [1578, 1605, 1582],
   [1580, 1605, 1581], [1580, 1605, 1581], [1581, 1605, 1610], [1581, 1605, 1609],
   [1587, 1581, 1580], [1587, 1580, 1581], [1587, 1580, 1609], [1587, 1605, 1581],
   [1587, 1605, 1581], [1587, 1605, 1580], [1587, 1605, 1605], [1587, 1605, 1605],
   [1589, 1581, 1581], [1589, 1581, 1581], [1589, 1605, 1605], [1588, 1581, 1605],
   [1588, 1581, 1605], [1588, 1580, 1610], [1588, 1605, 1582], [1588, 1605, 1582],
   [1588, 1605, 1605], [1588, 1605, 1605], [1590, 1581, 1609], [1590, 1582, 1605],
   [1590, 1582, 1605], [1591, 1605, 1581], [1591, 1605, 1581], [1591, 1605, 1605],
   [1591, 1605, 1610], [1593, 1580, 1605], [1593, 1605, 1605], [1593, 1605, 1605],
   [1593, 1605, 1609], [1594, 1605, 1605], [1594, 1605, 1610], [1594, 1605, 1609],
   [1601, 1582, 1605], [1601, 1582, 1605], [1602, 1605, 1581], [1602, 1605, 1605],
   [1604, 1581, 1605], [1604, 1581, 1610], [1604, 1581, 1609], [1604, 1580, 1580],
   [1604, 1580, 1580], [1604, 1582, 1605], [1604, 1582, 1605], [1604, 1605, 1581],
   [1604, 1605, 1581], [1605, 1581, 1580], [1605, 1581, 1605], [1605, 1581, 1610],
   [1605, 1580, 1581], [1605, 1580, 1605], [1605, 1582, 1580], [1605, 1582, 1605]]),
   (64914, [[1605, 1580, 1582], [1607, 1605, 1580], [1607, 1605, 1605], [1606, 1581, 1605],
   [1606, 1581, 1609], [1606, 1580, 1605], [1606, 1580, 1605], [1606, 1580, 1609],
   [1606, 1605, 1610], [1606, 1605, 1609], [1610, 1605, 1605], [1610, 1605, 1605],
   [1576, 1582, 1610], [1578, 1580, 1610], [1578, 1580, 1609], [1578, 1582, 1610],
   [1578, 1582, 1609], [1578, 1605, 1610], [1578, 1605, 1609], [1580, 1605, 1610],
   [1580, 1581, 1609], [1580, 1605, 1609], [1587, 1582, 1609], [1589, 1581, 1610],
   [1588, 1581, 1610], [1590, 1581, 1610], [1604, 1580, 1610], [1604, 1605, 1610],
   [1610, 1581, 1610], [1610, 1580, 1610], [1610, 1605, 1610], [1605, 1605, 1610],
   [1602, 1605, 1610], [1606, 1581, 1610], [1602, 1605, 1581], [1604, 1581, 1605],
   [1593, 1605, 1610], [1603, 1605, 1610], [1606, 1580, 1581], [1605, 1582, 1610],
   [1604, 1580, 1605], [1603, 1605, 1605], [1604, 1580, 1605], [1606, 1580, 1581],
   [1580, 1581, 1610], [1581, 1580, 1610], [1605, 1580, 1610], [1601, 1605, 1610],
   [1576, 1581, 1610], [1603, 1605, 1605], [1593, 1580, 1605], [1589, 1605, 1605],
   [1587, 1582, 1610], [1606, 1580, 1610]]), (65008, [[1589, 1604, 1746], [1602, 1604, 1746],
   [1575, 1604, 1604, 1607], [1575, 1603, 1576, 1585], [1605, 1581, 1605, 1583],
   [1589, 1604, 1593, 1605], [1585, 1587, 1608, 1604], [1593, 1604, 1610, 1607],
   [1608, 1587, 1604, 1605], [1589, 1604, 1609]]), (65137, [[1600, 1611]]),
   (65143, [[1600, 1614]]), (65145, [[1600, 1615]]), (65147, [[1600, 1616]]),
   (65149, [[1600, 1617]]), (65151, [[1600, 1618]]), (65153, [[1575, 1619], [1575, 1619],
   [1575, 1620], [1575, 1620], [1608, 1620], [1608, 1620], [1575, 1621], [1575, 1621],
   [1610, 1620], [1610, 1620], [1610, 1620], [1610, 1620]]), (65269, [[1604, 1575, 1619],
   [1604, 1575, 1619], [1604, 1575, 1620], [1604, 1575, 1620], [1604, 1575, 1621],
   [1604, 1575, 1621], [1604, 1575], [1604, 1575]]), (69786, [[69785, 69818]]),
   (69788, [[69787, 69818]]), (69803, [[69797, 69818]]), (69934, [[69937, 69927], [69938, 69927]]),
   (70475, [[70471, 70462], [70471, 70487]]), (70843, [[70841, 70842], [70841, 70832]]),
   (70846, [[70841, 70845]]), (71098, [[71096, 71087], [71097, 71087]]), (71992, [[71989, 71984]])]

end CodeLint.Text
