import Gallery.Text.Hex

namespace Gallery
namespace Web
namespace Domain

/-!
# Joining and direction of characters

The joining types decide where a zero-width non-joiner may stand between
letters of a cursive script.  The direction classes decide whether a label with
letters of a right-to-left script can be shown without ambiguity.  Each class
is the list of its edges.
-/

/-- Characters that join to the left only. -/
def leftJoiningText : List String := [
  "A872 A873 10ACD 10ACE 10AD7 10AD8 10D00 10D01 10FCB 10FCC"]

/-- Characters that join to the right only. -/
def rightJoiningText : List String := [
  "622 626 627 628 629 62A 62F 633 648 649 671 674 675 678 688 69A 6C0 6C1 6C3 6CC 6CD 6CE 6CF ",
  "6D0 6D2 6D4 6D5 6D6 6EE 6F0 710 711 715 71A 71E 71F 728 729 72A 72B 72C 72D 72F 730 74D 74E ",
  "759 75C 76B 76D 771 772 773 775 778 77A 840 841 846 848 849 84A 854 855 856 859 867 868 869 ",
  "86B 870 883 88E 88F 8AA 8AD 8AE 8AF 8B1 8B3 8B9 8BA 10AC5 10AC6 10AC7 10AC8 10AC9 10ACB ",
  "10ACE 10AD3 10ADD 10ADE 10AE1 10AE2 10AE4 10AE5 10AEF 10AF0 10B81 10B82 10B83 10B86 10B89 ",
  "10B8A 10B8C 10B8D 10B8E 10B90 10B91 10B92 10BA9 10BAD 10D22 10D23 10F33 10F34 10F54 10F55 ",
  "10F74 10F76 10FB4 10FB7 10FB9 10FBB 10FBD 10FBE 10FC2 10FC4 10FC9 10FCA"]

/-- Characters that join on both sides. -/
def dualJoiningText : List String := [
  "620 621 626 627 628 629 62A 62F 633 640 641 648 649 64B 66E 670 678 688 69A 6C0 6C1 6C3 6CC ",
  "6CD 6CE 6CF 6D0 6D2 6FA 6FD 6FF 700 712 715 71A 71E 71F 728 729 72A 72B 72C 72D 72F 74E 759 ",
  "75C 76B 76D 771 772 773 775 778 77A 780 7CA 7EB 841 846 848 849 84A 854 855 856 860 861 862 ",
  "866 868 869 886 887 889 88E 8A0 8AA 8AF 8B1 8B3 8B9 8BA 8C9 1807 1808 1820 1879 1887 18A9 ",
  "18AA 18AB A840 A872 10AC0 10AC5 10AD3 10AD7 10AD8 10ADD 10ADE 10AE1 10AEB 10AEF 10B80 10B81 ",
  "10B82 10B83 10B86 10B89 10B8A 10B8C 10B8D 10B8E 10B90 10B91 10BAD 10BAF 10D01 10D22 10D23 ",
  "10D24 10F30 10F33 10F34 10F45 10F51 10F54 10F70 10F74 10F76 10F82 10FB0 10FB1 10FB2 10FB4 ",
  "10FB8 10FB9 10FBB 10FBD 10FBE 10FC0 10FC1 10FC2 10FC4 10FC5 10FCA 10FCB 1E900 1E944"]

/-- Characters through which their neighbours join. -/
def transparentText : List String := [
  "AD AE 300 370 483 48A 591 5BE 5BF 5C0 5C1 5C3 5C4 5C6 5C7 5C8 610 61B 61C 61D 64B 660 670 ",
  "671 6D6 6DD 6DF 6E5 6E7 6E9 6EA 6EE 70F 710 711 712 730 74B 7A6 7B1 7EB 7F4 7FD 7FE 816 81A ",
  "81B 824 825 828 829 82E 859 85C 898 8A0 8CA 8E2 8E3 903 93A 93B 93C 93D 941 949 94D 94E 951 ",
  "958 962 964 981 982 9BC 9BD 9C1 9C5 9CD 9CE 9E2 9E4 9FE 9FF A01 A03 A3C A3D A41 A43 A47 A49 ",
  "A4B A4E A51 A52 A70 A72 A75 A76 A81 A83 ABC ABD AC1 AC6 AC7 AC9 ACD ACE AE2 AE4 AFA B00 B01 ",
  "B02 B3C B3D B3F B40 B41 B45 B4D B4E B55 B57 B62 B64 B82 B83 BC0 BC1 BCD BCE C00 C01 C04 C05 ",
  "C3C C3D C3E C41 C46 C49 C4A C4E C55 C57 C62 C64 C81 C82 CBC CBD CBF CC0 CC6 CC7 CCC CCE CE2 ",
  "CE4 D00 D02 D3B D3D D41 D45 D4D D4E D62 D64 D81 D82 DCA DCB DD2 DD5 DD6 DD7 E31 E32 E34 E3B ",
  "E47 E4F EB1 EB2 EB4 EBD EC8 ECF F18 F1A F35 F36 F37 F38 F39 F3A F71 F7F F80 F85 F86 F88 F8D ",
  "F98 F99 FBD FC6 FC7 102D 1031 1032 1038 1039 103B 103D 103F 1058 105A 105E 1061 1071 1075 ",
  "1082 1083 1085 1087 108D 108E 109D 109E 135D 1360 1712 1715 1732 1734 1752 1754 1772 1774 ",
  "17B4 17B6 17B7 17BE 17C6 17C7 17C9 17D4 17DD 17DE 180B 180E 180F 1810 1885 1887 18A9 18AA ",
  "1920 1923 1927 1929 1932 1933 1939 193C 1A17 1A19 1A1B 1A1C 1A56 1A57 1A58 1A5F 1A60 1A61 ",
  "1A62 1A63 1A65 1A6D 1A73 1A7D 1A7F 1A80 1AB0 1ACF 1B00 1B04 1B34 1B35 1B36 1B3B 1B3C 1B3D ",
  "1B42 1B43 1B6B 1B74 1B80 1B82 1BA2 1BA6 1BA8 1BAA 1BAB 1BAE 1BE6 1BE7 1BE8 1BEA 1BED 1BEE ",
  "1BEF 1BF2 1C2C 1C34 1C36 1C38 1CD0 1CD3 1CD4 1CE1 1CE2 1CE9 1CED 1CEE 1CF4 1CF5 1CF8 1CFA ",
  "1DC0 1E00 200B 200C 200E 2010 202A 202F 2060 2065 206A 2070 20D0 20F1 2CEF 2CF2 2D7F 2D80 ",
  "2DE0 2E00 302A 302E 3099 309B A66F A673 A674 A67E A69E A6A0 A6F0 A6F2 A802 A803 A806 A807 ",
  "A80B A80C A825 A827 A82C A82D A8C4 A8C6 A8E0 A8F2 A8FF A900 A926 A92E A947 A952 A980 A983 ",
  "A9B3 A9B4 A9B6 A9BA A9BC A9BE A9E5 A9E6 AA29 AA2F AA31 AA33 AA35 AA37 AA43 AA44 AA4C AA4D ",
  "AA7C AA7D AAB0 AAB1 AAB2 AAB5 AAB7 AAB9 AABE AAC0 AAC1 AAC2 AAEC AAEE AAF6 AAF7 ABE5 ABE6 ",
  "ABE8 ABE9 ABED ABEE FB1E FB1F FE00 FE10 FE20 FE30 FEFF FF00 FFF9 FFFC 101FD 101FE 102E0 ",
  "102E1 10376 1037B 10A01 10A04 10A05 10A07 10A0C 10A10 10A38 10A3B 10A3F 10A40 10AE5 10AE7 ",
  "10D24 10D28 10EAB 10EAD 10EFD 10F00 10F46 10F51 10F82 10F86 11001 11002 11038 11047 11070 ",
  "11071 11073 11075 1107F 11082 110B3 110B7 110B9 110BB 110C2 110C3 11100 11103 11127 1112C ",
  "1112D 11135 11173 11174 11180 11182 111B6 111BF 111C9 111CD 111CF 111D0 1122F 11232 11234 ",
  "11235 11236 11238 1123E 1123F 11241 11242 112DF 112E0 112E3 112EB 11300 11302 1133B 1133D ",
  "11340 11341 11366 1136D 11370 11375 11438 11440 11442 11445 11446 11447 1145E 1145F 114B3 ",
  "114B9 114BA 114BB 114BF 114C1 114C2 114C4 115B2 115B6 115BC 115BE 115BF 115C1 115DC 115DE ",
  "11633 1163B 1163D 1163E 1163F 11641 116AB 116AC 116AD 116AE 116B0 116B6 116B7 116B8 1171D ",
  "11720 11722 11726 11727 1172C 1182F 11838 11839 1183B 1193B 1193D 1193E 1193F 11943 11944 ",
  "119D4 119D8 119DA 119DC 119E0 119E1 11A01 11A0B 11A33 11A39 11A3B 11A3F 11A47 11A48 11A51 ",
  "11A57 11A59 11A5C 11A8A 11A97 11A98 11A9A 11C30 11C37 11C38 11C3E 11C3F 11C40 11C92 11CA8 ",
  "11CAA 11CB1 11CB2 11CB4 11CB5 11CB7 11D31 11D37 11D3A 11D3B 11D3C 11D3E 11D3F 11D46 11D47 ",
  "11D48 11D90 11D92 11D95 11D96 11D97 11D98 11EF3 11EF5 11F00 11F02 11F36 11F3B 11F40 11F41 ",
  "11F42 11F43 13430 13441 13447 13456 16AF0 16AF5 16B30 16B37 16F4F 16F50 16F8F 16F93 16FE4 ",
  "16FE5 1BC9D 1BC9F 1BCA0 1BCA4 1CF00 1CF2E 1CF30 1CF47 1D167 1D16A 1D173 1D183 1D185 1D18C ",
  "1D1AA 1D1AE 1D242 1D245 1DA00 1DA37 1DA3B 1DA6D 1DA75 1DA76 1DA84 1DA85 1DA9B 1DAA0 1DAA1 ",
  "1DAB0 1E000 1E007 1E008 1E019 1E01B 1E022 1E023 1E025 1E026 1E02B 1E08F 1E090 1E130 1E137 ",
  "1E2AE 1E2AF 1E2EC 1E2F0 1E4EC 1E4F0 1E8D0 1E8D7 1E944 1E94C E0001 E0002 E0020 E0080 E0100 ",
  "E01F0"]

/-- Letters of left-to-right scripts. -/
def leftToRightText : List String := [
  "41 5B 61 7B AA AB B5 B6 BA BB C0 D7 D8 F7 F8 2B9 2BB 2C2 2D0 2D2 2E0 2E5 2EE 2EF 370 374 ",
  "376 37E 37F 384 386 387 388 3F6 3F7 483 48A 58A 58B 58D 903 93A 93B 93C 93D 941 949 94D 94E ",
  "951 958 962 964 981 982 9BC 9BD 9C1 9C5 9CD 9CE 9E2 9E4 9F2 9F4 9FB 9FC 9FE 9FF A01 A03 A3C ",
  "A3D A41 A43 A47 A49 A4B A4E A51 A52 A70 A72 A75 A76 A81 A83 ABC ABD AC1 AC6 AC7 AC9 ACD ACE ",
  "AE2 AE4 AF1 AF2 AFA B00 B01 B02 B3C B3D B3F B40 B41 B45 B4D B4E B55 B57 B62 B64 B82 B83 BC0 ",
  "BC1 BCD BCE BF3 BFB C00 C01 C04 C05 C3C C3D C3E C41 C46 C49 C4A C4E C55 C57 C62 C64 C78 C7F ",
  "C81 C82 CBC CBD CCC CCE CE2 CE4 D00 D02 D3B D3D D41 D45 D4D D4E D62 D64 D81 D82 DCA DCB DD2 ",
  "DD5 DD6 DD7 E31 E32 E34 E3B E3F E40 E47 E4F EB1 EB2 EB4 EBD EC8 ECF F18 F1A F35 F36 F37 F38 ",
  "F39 F3E F71 F7F F80 F85 F86 F88 F8D F98 F99 FBD FC6 FC7 102D 1031 1032 1038 1039 103B 103D ",
  "103F 1058 105A 105E 1061 1071 1075 1082 1083 1085 1087 108D 108E 109D 109E 135D 1360 1390 ",
  "139A 1400 1401 1680 1681 169B 169D 1712 1715 1732 1734 1752 1754 1772 1774 17B4 17B6 17B7 ",
  "17BE 17C6 17C7 17C9 17D4 17DB 17DC 17DD 17DE 17F0 17FA 1800 1810 1885 1887 18A9 18AA 1920 ",
  "1923 1927 1929 1932 1933 1939 193C 1940 1941 1944 1946 19DE 1A00 1A17 1A19 1A1B 1A1C 1A56 ",
  "1A57 1A58 1A5F 1A60 1A61 1A62 1A63 1A65 1A6D 1A73 1A7D 1A7F 1A80 1AB0 1ACF 1B00 1B04 1B34 ",
  "1B35 1B36 1B3B 1B3C 1B3D 1B42 1B43 1B6B 1B74 1B80 1B82 1BA2 1BA6 1BA8 1BAA 1BAB 1BAE 1BE6 ",
  "1BE7 1BE8 1BEA 1BED 1BEE 1BEF 1BF2 1C2C 1C34 1C36 1C38 1CD0 1CD3 1CD4 1CE1 1CE2 1CE9 1CED ",
  "1CEE 1CF4 1CF5 1CF8 1CFA 1DC0 1E00 1FBD 1FBE 1FBF 1FC2 1FCD 1FD0 1FDD 1FE0 1FED 1FF0 1FFD ",
  "1FFF 2000 200E 200F 2071 2074 207F 2080 208F 20A0 20F1 2100 2102 2103 2107 2108 210A 2114 ",
  "2115 2116 2119 211E 2124 2125 2126 2127 2128 2129 212A 212E 212F 213A 213C 2140 2145 214A ",
  "214E 2150 2160 2189 218C 2190 2336 237B 2395 2396 2427 2440 244B 2460 249C 24EA 26AC 26AD ",
  "2800 2900 2B74 2B76 2B96 2B97 2C00 2CE5 2CEB 2CEF 2CF2 2CF9 2D00 2D7F 2D80 2DE0 2E5E 2E80 ",
  "2E9A 2E9B 2EF4 2F00 2FD6 2FF0 2FFC 3000 3005 3008 3021 302A 302E 3030 3031 3036 3038 303D ",
  "3040 3099 309D 30A0 30A1 30FB 30FC 31C0 31E4 321D 321F 3250 3260 327C 327F 32B1 32C0 32CC ",
  "32D0 3377 337B 33DE 33E0 33FF 3400 4DC0 4E00 A490 A4C7 A60D A610 A66F A680 A69E A6A0 A6F0 ",
  "A6F2 A700 A722 A788 A789 A802 A803 A806 A807 A80B A80C A825 A827 A828 A82D A838 A83A A874 ",
  "A878 A8C4 A8C6 A8E0 A8F2 A8FF A900 A926 A92E A947 A952 A980 A983 A9B3 A9B4 A9B6 A9BA A9BC ",
  "A9BE A9E5 A9E6 AA29 AA2F AA31 AA33 AA35 AA37 AA43 AA44 AA4C AA4D AA7C AA7D AAB0 AAB1 AAB2 ",
  "AAB5 AAB7 AAB9 AABE AAC0 AAC1 AAC2 AAEC AAEE AAF6 AAF7 AB6A AB6C ABE5 ABE6 ABE8 ABE9 ABED ",
  "ABEE FB1D FE1A FE20 FE53 FE54 FE67 FE68 FE6C FE70 FF00 FF01 FF21 FF3B FF41 FF5B FF66 FFE0 ",
  "FFE7 FFE8 FFEF FFF0 10000 10101 10102 10140 1018D 10190 1019D 101A0 101A1 101FD 101FE 102E0 ",
  "102FC 10376 1037B 10800 11000 11001 11002 11038 11047 11052 11066 11070 11071 11073 11075 ",
  "1107F 11082 110B3 110B7 110B9 110BB 110C2 110C3 11100 11103 11127 1112C 1112D 11135 11173 ",
  "11174 11180 11182 111B6 111BF 111C9 111CD 111CF 111D0 1122F 11232 11234 11235 11236 11238 ",
  "1123E 1123F 11241 11242 112DF 112E0 112E3 112EB 11300 11302 1133B 1133D 11340 11341 11366 ",
  "1136D 11370 11375 11438 11440 11442 11445 11446 11447 1145E 1145F 114B3 114B9 114BA 114BB ",
  "114BF 114C1 114C2 114C4 115B2 115B6 115BC 115BE 115BF 115C1 115DC 115DE 11633 1163B 1163D ",
  "1163E 1163F 11641 11660 1166D 116AB 116AC 116AD 116AE 116B0 116B6 116B7 116B8 1171D 11720 ",
  "11722 11726 11727 1172C 1182F 11838 11839 1183B 1193B 1193D 1193E 1193F 11943 11944 119D4 ",
  "119D8 119DA 119DC 119E0 119E1 11A01 11A07 11A09 11A0B 11A33 11A39 11A3B 11A3F 11A47 11A48 ",
  "11A51 11A57 11A59 11A5C 11A8A 11A97 11A98 11A9A 11C30 11C37 11C38 11C3E 11C92 11CA8 11CAA ",
  "11CB1 11CB2 11CB4 11CB5 11CB7 11D31 11D37 11D3A 11D3B 11D3C 11D3E 11D3F 11D46 11D47 11D48 ",
  "11D90 11D92 11D95 11D96 11D97 11D98 11EF3 11EF5 11F00 11F02 11F36 11F3B 11F40 11F41 11F42 ",
  "11F43 11FD5 11FF2 13440 13441 13447 13456 16AF0 16AF5 16B30 16B37 16F4F 16F50 16F8F 16F93 ",
  "16FE2 16FE3 16FE4 16FE5 1BC9D 1BC9F 1BCA0 1BCA4 1CF00 1CF2E 1CF30 1CF47 1D167 1D16A 1D173 ",
  "1D183 1D185 1D18C 1D1AA 1D1AE 1D1E9 1D1EB 1D200 1D246 1D300 1D357 1D6DB 1D6DC 1D715 1D716 ",
  "1D74F 1D750 1D789 1D78A 1D7C3 1D7C4 1D7CE 1D800 1DA00 1DA37 1DA3B 1DA6D 1DA75 1DA76 1DA84 ",
  "1DA85 1DA9B 1DAA0 1DAA1 1DAB0 1E000 1E007 1E008 1E019 1E01B 1E022 1E023 1E025 1E026 1E02B ",
  "1E08F 1E090 1E130 1E137 1E2AE 1E2AF 1E2EC 1E2F0 1E2FF 1E300 1E4EC 1E4F0 1E800 1F02C 1F030 ",
  "1F094 1F0A0 1F0AF 1F0B1 1F0C0 1F0C1 1F0D0 1F0D1 1F0F6 1F100 1F110 1F12F 1F130 1F16A 1F170 ",
  "1F1AD 1F1AE 1F260 1F266 1F300 1F6D8 1F6DC 1F6ED 1F6F0 1F6FD 1F700 1F777 1F77B 1F7DA 1F7E0 ",
  "1F7EC 1F7F0 1F7F1 1F800 1F80C 1F810 1F848 1F850 1F85A 1F860 1F888 1F890 1F8AE 1F8B0 1F8B2 ",
  "1F900 1FA54 1FA60 1FA6E 1FA70 1FA7D 1FA80 1FA89 1FA90 1FABE 1FABF 1FAC6 1FACE 1FADC 1FAE0 ",
  "1FAE9 1FAF0 1FAF9 1FB00 1FB93 1FB94 1FBCB 1FBF0 1FBFA 1FFFE 20000 2FFFE 30000 3FFFE 40000 ",
  "4FFFE 50000 5FFFE 60000 6FFFE 70000 7FFFE 80000 8FFFE 90000 9FFFE A0000 AFFFE B0000 BFFFE ",
  "C0000 CFFFE D0000 DFFFE E1000 EFFFE F0000 FFFFE 100000 10FFFE 110000"]

/-- Letters of right-to-left scripts other than Arabic. -/
def rightToLeftText : List String := [
  "590 591 5BE 5BF 5C0 5C1 5C3 5C4 5C6 5C7 5C8 600 7C0 7EB 7F4 7F6 7FA 7FD 7FE 816 81A 81B 824 ",
  "825 828 829 82E 859 85C 860 200F 2010 FB1D FB1E FB1F FB29 FB2A FB50 10800 1091F 10920 10A01 ",
  "10A04 10A05 10A07 10A0C 10A10 10A38 10A3B 10A3F 10A40 10AE5 10AE7 10B39 10B40 10D00 10D40 ",
  "10E60 10E7F 10EAB 10EAD 10EC0 10F00 10F30 10F70 10F82 10F86 11000 1E800 1E8D0 1E8D7 1E944 ",
  "1E94B 1EC70 1ECC0 1ED00 1ED50 1EE00 1EF00 1F000"]

/-- Letters of the Arabic scripts. -/
def arabicLetterText : List String := [
  "608 609 60B 60C 60D 60E 61B 64B 66D 670 671 6D6 6E5 6E7 6EE 6F0 6FA 711 712 730 74B 7A6 7B1 ",
  "7C0 860 890 892 898 8A0 8CA FB50 FD3E FD50 FDCF FDF0 FDFD FE70 FEFF 10D00 10D24 10D28 10D30 ",
  "10D3A 10D40 10EC0 10EFD 10F30 10F46 10F51 10F70 1EC70 1ECC0 1ED00 1ED50 1EE00 1EEF0 1EEF2 ",
  "1EF00"]

/-- Digits of the Arabic scripts. -/
def arabicNumberText : List String := [
  "600 606 660 66A 66B 66D 6DD 6DE 890 892 8E2 8E3 10D30 10D3A 10E60 10E7F"]

/-- European digits. -/
def europeanNumberText : List String := [
  "30 3A B2 B4 B9 BA 6F0 6FA 2070 2071 2074 207A 2080 208A 2488 249C FF10 FF1A 102E1 102FC ",
  "1D7CE 1D800 1F100 1F10B 1FBF0 1FBFA"]

/-- Signs in front of European digits. -/
def europeanSeparatorText : List String := [
  "2B 2C 2D 2E 207A 207C 208A 208C 2212 2213 FB29 FB2A FE62 FE64 FF0B FF0C FF0D FF0E"]

/-- Separators within numbers. -/
def commonSeparatorText : List String := [
  "2C 2D 2E 30 3A 3B A0 A1 60C 60D 202F 2030 2044 2045 FE50 FE51 FE52 FE53 FE55 FE56 FF0C FF0D ",
  "FF0E FF10 FF1A FF1B"]

/-- Signs beside European digits. -/
def europeanTerminatorText : List String := [
  "23 26 A2 A6 B0 B2 58F 590 609 60B 66A 66B 9F2 9F4 9FB 9FC AF1 AF2 BF9 BFA E3F E40 17DB 17DC ",
  "2030 2035 20A0 20D0 212E 212F 2213 2214 A838 A83A FE5F FE60 FE69 FE6B FF03 FF06 FFE0 FFE2 ",
  "FFE5 FFE7 11FDD 11FE1 1E2FF 1E300"]

/-- Neutral characters. -/
def otherNeutralText : List String := [
  "21 23 26 2B 3B 41 5B 61 7B 7F A1 A2 A6 AA AB AD AE B0 B4 B5 B6 B9 BB C0 D7 D8 F7 F8 2B9 2BB ",
  "2C2 2D0 2D2 2E0 2E5 2EE 2EF 300 374 376 37E 37F 384 386 387 388 3F6 3F7 58A 58B 58D 58F 606 ",
  "608 60E 610 6DE 6DF 6E9 6EA 7F6 7FA BF3 BF9 BFA BFB C78 C7F F3A F3E 1390 139A 1400 1401 ",
  "169B 169D 17F0 17FA 1800 180B 1940 1941 1944 1946 19DE 1A00 1FBD 1FBE 1FBF 1FC2 1FCD 1FD0 ",
  "1FDD 1FE0 1FED 1FF0 1FFD 1FFF 2010 2028 2035 2044 2045 205F 207C 207F 208C 208F 2100 2102 ",
  "2103 2107 2108 210A 2114 2115 2116 2119 211E 2124 2125 2126 2127 2128 2129 212A 213A 213C ",
  "2140 2145 214A 214E 2150 2160 2189 218C 2190 2212 2214 2336 237B 2395 2396 2427 2440 244B ",
  "2460 2488 24EA 26AC 26AD 2800 2900 2B74 2B76 2B96 2B97 2C00 2CE5 2CEB 2CF9 2D00 2E00 2E5E ",
  "2E80 2E9A 2E9B 2EF4 2F00 2FD6 2FF0 2FFC 3001 3005 3008 3021 3030 3031 3036 3038 303D 3040 ",
  "309B 309D 30A0 30A1 30FB 30FC 31C0 31E4 321D 321F 3250 3260 327C 327F 32B1 32C0 32CC 32D0 ",
  "3377 337B 33DE 33E0 33FF 3400 4DC0 4E00 A490 A4C7 A60D A610 A673 A674 A67E A680 A700 A722 ",
  "A788 A789 A828 A82C A874 A878 AB6A AB6C FD3E FD50 FDCF FDD0 FDFD FE00 FE10 FE1A FE30 FE50 ",
  "FE51 FE52 FE54 FE55 FE56 FE5F FE60 FE62 FE64 FE67 FE68 FE69 FE6B FE6C FF01 FF03 FF06 FF0B ",
  "FF1B FF21 FF3B FF41 FF5B FF66 FFE2 FFE5 FFE8 FFEF FFF9 FFFE 10101 10102 10140 1018D 10190 ",
  "1019D 101A0 101A1 1091F 10920 10B39 10B40 11052 11066 11660 1166D 11FD5 11FDD 11FE1 11FF2 ",
  "16FE2 16FE3 1D1E9 1D1EB 1D200 1D242 1D245 1D246 1D300 1D357 1D6DB 1D6DC 1D715 1D716 1D74F ",
  "1D750 1D789 1D78A 1D7C3 1D7C4 1EEF0 1EEF2 1F000 1F02C 1F030 1F094 1F0A0 1F0AF 1F0B1 1F0C0 ",
  "1F0C1 1F0D0 1F0D1 1F0F6 1F10B 1F110 1F12F 1F130 1F16A 1F170 1F1AD 1F1AE 1F260 1F266 1F300 ",
  "1F6D8 1F6DC 1F6ED 1F6F0 1F6FD 1F700 1F777 1F77B 1F7DA 1F7E0 1F7EC 1F7F0 1F7F1 1F800 1F80C ",
  "1F810 1F848 1F850 1F85A 1F860 1F888 1F890 1F8AE 1F8B0 1F8B2 1F900 1FA54 1FA60 1FA6E 1FA70 ",
  "1FA7D 1FA80 1FA89 1FA90 1FABE 1FABF 1FAC6 1FACE 1FADC 1FAE0 1FAE9 1FAF0 1FAF9 1FB00 1FB93 ",
  "1FB94 1FBCB"]

/-- Characters without direction at boundaries. -/
def boundaryNeutralText : List String := [
  "0 9 E 1C 7F 85 86 A0 AD AE 180E 180F 200B 200E 2060 2066 206A 2070 FDD0 FDF0 FEFF FF00 FFF0 ",
  "FFF9 FFFE 10000 1BCA0 1BCA4 1D173 1D17B 1FFFE 20000 2FFFE 30000 3FFFE 40000 4FFFE 50000 ",
  "5FFFE 60000 6FFFE 70000 7FFFE 80000 8FFFE 90000 9FFFE A0000 AFFFE B0000 BFFFE C0000 CFFFE ",
  "D0000 DFFFE E0100 E01F0 E1000 EFFFE F0000 FFFFE 100000 10FFFE"]

/-- Marks that take the direction of what they follow. -/
def nonspacingMarkText : List String := [
  "300 370 483 48A 591 5BE 5BF 5C0 5C1 5C3 5C4 5C6 5C7 5C8 610 61B 64B 660 670 671 6D6 6DD 6DF ",
  "6E5 6E7 6E9 6EA 6EE 711 712 730 74B 7A6 7B1 7EB 7F4 7FD 7FE 816 81A 81B 824 825 828 829 82E ",
  "859 85C 898 8A0 8CA 8E2 8E3 903 93A 93B 93C 93D 941 949 94D 94E 951 958 962 964 981 982 9BC ",
  "9BD 9C1 9C5 9CD 9CE 9E2 9E4 9FE 9FF A01 A03 A3C A3D A41 A43 A47 A49 A4B A4E A51 A52 A70 A72 ",
  "A75 A76 A81 A83 ABC ABD AC1 AC6 AC7 AC9 ACD ACE AE2 AE4 AFA B00 B01 B02 B3C B3D B3F B40 B41 ",
  "B45 B4D B4E B55 B57 B62 B64 B82 B83 BC0 BC1 BCD BCE C00 C01 C04 C05 C3C C3D C3E C41 C46 C49 ",
  "C4A C4E C55 C57 C62 C64 C81 C82 CBC CBD CCC CCE CE2 CE4 D00 D02 D3B D3D D41 D45 D4D D4E D62 ",
  "D64 D81 D82 DCA DCB DD2 DD5 DD6 DD7 E31 E32 E34 E3B E47 E4F EB1 EB2 EB4 EBD EC8 ECF F18 F1A ",
  "F35 F36 F37 F38 F39 F3A F71 F7F F80 F85 F86 F88 F8D F98 F99 FBD FC6 FC7 102D 1031 1032 1038 ",
  "1039 103B 103D 103F 1058 105A 105E 1061 1071 1075 1082 1083 1085 1087 108D 108E 109D 109E ",
  "135D 1360 1712 1715 1732 1734 1752 1754 1772 1774 17B4 17B6 17B7 17BE 17C6 17C7 17C9 17D4 ",
  "17DD 17DE 180B 180E 180F 1810 1885 1887 18A9 18AA 1920 1923 1927 1929 1932 1933 1939 193C ",
  "1A17 1A19 1A1B 1A1C 1A56 1A57 1A58 1A5F 1A60 1A61 1A62 1A63 1A65 1A6D 1A73 1A7D 1A7F 1A80 ",
  "1AB0 1ACF 1B00 1B04 1B34 1B35 1B36 1B3B 1B3C 1B3D 1B42 1B43 1B6B 1B74 1B80 1B82 1BA2 1BA6 ",
  "1BA8 1BAA 1BAB 1BAE 1BE6 1BE7 1BE8 1BEA 1BED 1BEE 1BEF 1BF2 1C2C 1C34 1C36 1C38 1CD0 1CD3 ",
  "1CD4 1CE1 1CE2 1CE9 1CED 1CEE 1CF4 1CF5 1CF8 1CFA 1DC0 1E00 20D0 20F1 2CEF 2CF2 2D7F 2D80 ",
  "2DE0 2E00 302A 302E 3099 309B A66F A673 A674 A67E A69E A6A0 A6F0 A6F2 A802 A803 A806 A807 ",
  "A80B A80C A825 A827 A82C A82D A8C4 A8C6 A8E0 A8F2 A8FF A900 A926 A92E A947 A952 A980 A983 ",
  "A9B3 A9B4 A9B6 A9BA A9BC A9BE A9E5 A9E6 AA29 AA2F AA31 AA33 AA35 AA37 AA43 AA44 AA4C AA4D ",
  "AA7C AA7D AAB0 AAB1 AAB2 AAB5 AAB7 AAB9 AABE AAC0 AAC1 AAC2 AAEC AAEE AAF6 AAF7 ABE5 ABE6 ",
  "ABE8 ABE9 ABED ABEE FB1E FB1F FE00 FE10 FE20 FE30 101FD 101FE 102E0 102E1 10376 1037B 10A01 ",
  "10A04 10A05 10A07 10A0C 10A10 10A38 10A3B 10A3F 10A40 10AE5 10AE7 10D24 10D28 10EAB 10EAD ",
  "10EFD 10F00 10F46 10F51 10F82 10F86 11001 11002 11038 11047 11070 11071 11073 11075 1107F ",
  "11082 110B3 110B7 110B9 110BB 110C2 110C3 11100 11103 11127 1112C 1112D 11135 11173 11174 ",
  "11180 11182 111B6 111BF 111C9 111CD 111CF 111D0 1122F 11232 11234 11235 11236 11238 1123E ",
  "1123F 11241 11242 112DF 112E0 112E3 112EB 11300 11302 1133B 1133D 11340 11341 11366 1136D ",
  "11370 11375 11438 11440 11442 11445 11446 11447 1145E 1145F 114B3 114B9 114BA 114BB 114BF ",
  "114C1 114C2 114C4 115B2 115B6 115BC 115BE 115BF 115C1 115DC 115DE 11633 1163B 1163D 1163E ",
  "1163F 11641 116AB 116AC 116AD 116AE 116B0 116B6 116B7 116B8 1171D 11720 11722 11726 11727 ",
  "1172C 1182F 11838 11839 1183B 1193B 1193D 1193E 1193F 11943 11944 119D4 119D8 119DA 119DC ",
  "119E0 119E1 11A01 11A07 11A09 11A0B 11A33 11A39 11A3B 11A3F 11A47 11A48 11A51 11A57 11A59 ",
  "11A5C 11A8A 11A97 11A98 11A9A 11C30 11C37 11C38 11C3E 11C92 11CA8 11CAA 11CB1 11CB2 11CB4 ",
  "11CB5 11CB7 11D31 11D37 11D3A 11D3B 11D3C 11D3E 11D3F 11D46 11D47 11D48 11D90 11D92 11D95 ",
  "11D96 11D97 11D98 11EF3 11EF5 11F00 11F02 11F36 11F3B 11F40 11F41 11F42 11F43 13440 13441 ",
  "13447 13456 16AF0 16AF5 16B30 16B37 16F4F 16F50 16F8F 16F93 16FE4 16FE5 1BC9D 1BC9F 1CF00 ",
  "1CF2E 1CF30 1CF47 1D167 1D16A 1D17B 1D183 1D185 1D18C 1D1AA 1D1AE 1D242 1D245 1DA00 1DA37 ",
  "1DA3B 1DA6D 1DA75 1DA76 1DA84 1DA85 1DA9B 1DAA0 1DAA1 1DAB0 1E000 1E007 1E008 1E019 1E01B ",
  "1E022 1E023 1E025 1E026 1E02B 1E08F 1E090 1E130 1E137 1E2AE 1E2AF 1E2EC 1E2F0 1E4EC 1E4F0 ",
  "1E8D0 1E8D7 1E944 1E94B E0100 E01F0"]

end Domain
end Web
end Gallery
