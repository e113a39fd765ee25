/-!
# Mapped compatibility characters
-/

namespace CommentBot.Net.Domain

/-- What the characters from U+3400 to U+FFFF are replaced by in domain names, from Unicode 17. -/
def compatibilityMapping : String :=
  "a640-a66c/2>a641 a680-a69a/2>a681 a69c>44a,44c a722-a72e/2>a723 a732-a76e/2>a733 a770>a76f a779>a77a
a77b>a77c a77d>1d79 a77e-a786/2>a77f a78b>a78c a78d>265 a790>a791 a792>a793 a796-a7a8/2>a797
a7aa>266,25c,261,26c,26a a7b0>29e,287,29d,ab53 a7b4-a7c2/2>a7b5 a7c4>a794,282,1d8e,a7c8 a7c9>a7ca a7cb>264
a7cc-a7da/2>a7cd a7dc>19b a7f1>73,63,66,71,a7f6 a7f8>127,153 ab5c>a727,ab37,26b,ab52 ab69>28d ab70-abbf>13a0
f900>8c48,66f4,8eca,8cc8,6ed1,4e32,53e5,9f9c,9f9c,5951,91d1,5587,5948,61f6,7669,7f85
f910>863f,87ba,88f8,908f,6a02,6d1b,70d9,73de,843d,916a,99f1,4e82,5375,6b04,721b,862d
f920>9e1e,5d50,6feb,85cd,8964,62c9,81d8,881f,5eca,6717,6d6a,72fc,90ce,4f86,51b7,52de
f930>64c4,6ad3,7210,76e7,8001,8606,865c,8def,9732,9b6f,9dfa,788c,797f,7da0,83c9,9304
f940>9e7f,8ad6,58df,5f04,7c60,807e,7262,78ca,8cc2,96f7,58d8,5c62,6a13,6dda,6f0f,7d2f
f950>7e37,964b,52d2,808b,51dc,51cc,7a1c,7dbe,83f1,9675,8b80,62cf,6a02,8afe,4e39,5be7
f960>6012,7387,7570,5317,78fb,4fbf,5fa9,4e0d,6ccc,6578,7d22,53c3,585e,7701,8449,8aaa
f970>6bba,8fb0,6c88,62fe,82e5,63a0,7565,4eae,5169,51c9,6881,7ce7,826f,8ad2,91cf,52f5
f980>5442,5973,5eec,65c5,6ffe,792a,95ad,9a6a,9e97,9ece,529b,66c6,6b77,8f62,5e74,6190
f990>6200,649a,6f23,7149,7489,79ca,7df4,806f,8f26,84ee,9023,934a,5217,52a3,54bd,70c8
f9a0>88c2,8aaa,5ec9,5ff5,637b,6bae,7c3e,7375,4ee4,56f9,5be7,5dba,601c,73b2,7469,7f9a
f9b0>8046,9234,96f6,9748,9818,4f8b,79ae,91b4,96b8,60e1,4e86,50da,5bee,5c3f,6599,6a02
f9c0>71ce,7642,84fc,907c,9f8d,6688,962e,5289,677b,67f3,6d41,6e9c,7409,7559,786b,7d10
f9d0>985e,516d,622e,9678,502b,5d19,6dea,8f2a,5f8b,6144,6817,7387,9686,5229,540f,5c65
f9e0>6613,674e,68a8,6ce5,7406,75e2,7f79,88cf,88e1,91cc,96e2,533f,6eba,541d,71d0,7498
f9f0>85fa,96a3,9c57,9e9f,6797,6dcb,81e8,7acb,7b20,7c92,72c0,7099,8b58,4ec0,8336,523a
fa00>5207,5ea6,62d3,7cd6,5b85,6d1e,66b4,8f3b,884c,964d,898b,5ed3,5140,55c0 fa10>585a fa12>6674
fa15>51de,732a,76ca,793c,795e,7965,798f,9756,7cbe,7fbd fa20>8612 fa22>8af8 fa25>9038,90fd
fa2a>98ef,98fc,9928,9db4,90de,96b7,4fae,50e7,514d,52c9,52e4,5351,559d,5606,5668,5840
fa3a>58a8,5c64,5c6e,6094,6168,618e,61f2,654f,65e2,6691,6885,6d77,6e1a,6f22,716e,722b
fa4a>7422,7891,793e,7949,7948,7950,7956,795d,798d,798e,7a40,7a81,7bc0,7df4,7e09,7e41
fa5a>7f72,8005,81ed,8279,8279,8457,8910,8996,8b01,8b39,8cd3,8d08,8fb6,9038,96e3,97ff
fa6a>983b,6075,242ee,8218
fa70>4e26,51b5,5168,4f80,5145,5180,52c7,52fa,559d,5555,5599,55e2,585a,58b3,5944,5954
fa80>5a62,5b28,5ed2,5ed9,5f69,5fad,60d8,614e,6108,618e,6160,61f2,6234,63c4,641c,6452
fa90>6556,6674,6717,671b,6756,6b79,6bba,6d41,6edb,6ecb,6f22,701e,716e,77a7,7235,72af
faa0>732a,7471,7506,753b,761d,761f,76ca,76db,76f4,774a,7740,78cc,7ab1,7bc0,7c7b,7d5b
fab0>7df4,7f3e,8005,8352,83ef,8779,8941,8986,8996,8abf,8af8,8acb,8b01,8afe,8aed,8b39
fac0>8b8a,8d08,8f38,9072,9199,9276,967c,96e3,9756,97db,97ff,980b,983b,9b12,9f9c,2284a
fad0>22844,233d5,3b9d,4018,4039,25249,25cd0,27ed3,9f43,9f8e
fb00>66.66,66.69,66.6c,66.66.69,66.66.6c,73.74,73.74 fb13>574.576,574.565,574.56b,57e.576,574.56d
fb1d>5d9.5b4 fb1f>5f2.5b7,5e2,5d0,5d3,5d4,5db,5dc,5dd,5e8,5ea,2b,5e9.5c1,5e9.5c2,5e9.5bc.5c1
fb2d>5e9.5bc.5c2,5d0.5b7 fb2f>5d0.5b8,5d0.5bc,5d1.5bc,5d2.5bc,5d3.5bc,5d4.5bc,5d5.5bc,5d6.5bc
fb38>5d8.5bc,5d9.5bc,5da.5bc,5db.5bc,5dc.5bc fb3e>5de.5bc fb40>5e0.5bc,5e1.5bc fb43>5e3.5bc,5e4.5bc
fb46>5e6.5bc,5e7.5bc,5e8.5bc,5e9.5bc,5ea.5bc,5d5.5b9,5d1.5bf,5db.5bf,5e4.5bf,5d0.5dc,671
fb51>671,67b,67b,67b,67b fb56>67e,67e,67e,67e,680,680,680,680,67a,67a,67a,67a,67f,67f,67f,67f
fb66>679,679,679,679,6a4,6a4,6a4,6a4,6a6,6a6,6a6,6a6,684,684,684,684
fb76>683,683,683,683,686,686,686,686,687,687,687,687,68d,68d,68c,68c
fb86>68e,68e,688,688,698,698,691,691,6a9,6a9,6a9,6a9,6af,6af,6af,6af
fb96>6b3,6b3,6b3,6b3,6b1,6b1,6b1,6b1,6ba,6ba,6bb,6bb,6bb,6bb,6c0,6c0
fba6>6c1,6c1,6c1,6c1,6be,6be,6be,6be,6d2,6d2,6d3,6d3
fbd3>6ad,6ad,6ad,6ad,6c7,6c7,6c6,6c6,6c8,6c8,6c7.674,6cb,6cb,6c5,6c5,6c9
fbe3>6c9,6d0,6d0,6d0,6d0,649,649,626.627,626.627,626.6d5,626.6d5,626.648,626.648,626.6c7
fbf1>626.6c7,626.6c6
fbf3>626.6c6,626.6c8,626.6c8,626.6d0,626.6d0,626.6d0,626.649,626.649,626.649,6cc,6cc,6cc
fbff>6cc,626.62c,626.62d,626.645
fc03>626.649,626.64a,628.62c,628.62d,628.62e,628.645,628.649,628.64a,62a.62c,62a.62d
fc0d>62a.62e,62a.645,62a.649,62a.64a,62b.62c,62b.645
fc13>62b.649,62b.64a,62c.62d,62c.645,62d.62c,62d.645,62e.62c,62e.62d,62e.645,633.62c
fc1d>633.62d,633.62e,633.645,635.62d,635.645,636.62c
fc23>636.62d,636.62e,636.645,637.62d,637.645,638.645,639.62c,639.645,63a.62c,63a.645
fc2d>641.62c,641.62d,641.62e,641.645,641.649,641.64a
fc33>642.62d,642.645,642.649,642.64a,643.627,643.62c,643.62d,643.62e,643.644,643.645
fc3d>643.649,643.64a,644.62c,644.62d,644.62e,644.645
fc43>644.649,644.64a,645.62c,645.62d,645.62e,645.645,645.649,645.64a,646.62c,646.62d
fc4d>646.62e,646.645,646.649,646.64a,647.62c,647.645
fc53>647.649,647.64a,64a.62c,64a.62d,64a.62e,64a.645,64a.649,64a.64a,630.670,631.670
fc5d>649.670,20.64c.651,20.64d.651,20.64e.651,20.64f.651,20.650.651
fc63>20.651.670,626.631,626.632,626.645,626.646,626.649,626.64a,628.631,628.632,628.645
fc6d>628.646,628.649,628.64a,62a.631,62a.632,62a.645
fc73>62a.646,62a.649,62a.64a,62b.631,62b.632,62b.645,62b.646,62b.649,62b.64a,641.649
fc7d>641.64a,642.649,642.64a,643.627,643.644,643.645
fc83>643.649,643.64a,644.645,644.649,644.64a,645.627,645.645,646.631,646.632,646.645
fc8d>646.646,646.649,646.64a,649.670,64a.631,64a.632
fc93>64a.645,64a.646,64a.649,64a.64a,626.62c,626.62d,626.62e,626.645,626.647,628.62c
fc9d>628.62d,628.62e,628.645,628.647,62a.62c,62a.62d
fca3>62a.62e,62a.645,62a.647,62b.645,62c.62d,62c.645,62d.62c,62d.645,62e.62c,62e.645
fcad>633.62c,633.62d,633.62e,633.645,635.62d,635.62e
fcb3>635.645,636.62c,636.62d,636.62e,636.645,637.62d,638.645,639.62c,639.645,63a.62c
fcbd>63a.645,641.62c,641.62d,641.62e,641.645,642.62d
fcc3>642.645,643.62c,643.62d,643.62e,643.644,643.645,644.62c,644.62d,644.62e,644.645
fccd>644.647,645.62c,645.62d,645.62e,645.645,646.62c
fcd3>646.62d,646.62e,646.645,646.647,647.62c,647.645,647.670,64a.62c,64a.62d,64a.62e
fcdd>64a.645,64a.647,626.645,626.647,628.645,628.647
fce3>62a.645,62a.647,62b.645,62b.647,633.645,633.647,634.645,634.647,643.644,643.645
fced>644.645,646.645,646.647,64a.645,64a.647,640.64e.651
fcf3>640.64f.651,640.650.651,637.649,637.64a,639.649,639.64a,63a.649,63a.64a,633.649
fcfc>633.64a,634.649,634.64a,62d.649,62d.64a,62c.649,62c.64a
fd03>62e.649,62e.64a,635.649,635.64a,636.649,636.64a,634.62c,634.62d,634.62e,634.645
fd0d>634.631,633.631,635.631,636.631,637.649,637.64a
fd13>639.649,639.64a,63a.649,63a.64a,633.649,633.64a,634.649,634.64a,62d.649,62d.64a
fd1d>62c.649,62c.64a,62e.649,62e.64a,635.649,635.64a
fd23>636.649,636.64a,634.62c,634.62d,634.62e,634.645,634.631,633.631,635.631,636.631
fd2d>634.62c,634.62d,634.62e,634.645,633.647,634.647
fd33>637.645,633.62c,633.62d,633.62e,634.62c,634.62d,634.62e,637.645,638.645,627.64b fd3d>627.64b
fd50>62a.62c.645,62a.62d.62c,62a.62d.62c,62a.62d.645,62a.62e.645,62a.645.62c,62a.645.62d
fd57>62a.645.62e,62c.645.62d,62c.645.62d,62d.645.64a,62d.645.649,633.62d.62c,633.62c.62d
fd5e>633.62c.649,633.645.62d
fd60>633.645.62d,633.645.62c,633.645.645,633.645.645,635.62d.62d,635.62d.62d,635.645.645
fd67>634.62d.645,634.62d.645,634.62c.64a,634.645.62e,634.645.62e,634.645.645,634.645.645
fd6e>636.62d.649,636.62e.645
fd70>636.62e.645,637.645.62d,637.645.62d,637.645.645,637.645.64a,639.62c.645,639.645.645
fd77>639.645.645,639.645.649,63a.645.645,63a.645.64a,63a.645.649,641.62e.645,641.62e.645
fd7e>642.645.62d,642.645.645
fd80>644.62d.645,644.62d.64a,644.62d.649,644.62c.62c,644.62c.62c,644.62e.645,644.62e.645
fd87>644.645.62d,644.645.62d,645.62d.62c,645.62d.645,645.62d.64a,645.62c.62d,645.62c.645
fd8e>645.62e.62c,645.62e.645
fd92>645.62c.62e,647.645.62c,647.645.645,646.62d.645,646.62d.649,646.62c.645,646.62c.645
fd99>646.62c.649,646.645.64a,646.645.649,64a.645.645,64a.645.645,628.62e.64a,62a.62c.64a
fda0>62a.62c.649,62a.62e.64a
fda2>62a.62e.649,62a.645.64a,62a.645.649,62c.645.64a,62c.62d.649,62c.645.649,633.62e.649
fda9>635.62d.64a,634.62d.64a,636.62d.64a,644.62c.64a,644.645.64a,64a.62d.64a,64a.62c.64a
fdb0>64a.645.64a,645.645.64a
fdb2>642.645.64a,646.62d.64a,642.645.62d,644.62d.645,639.645.64a,643.645.64a,646.62c.62d
fdb9>645.62e.64a,644.62c.645,643.645.645,644.62c.645,646.62c.62d,62c.62d.64a,62d.62c.64a
fdc0>645.62c.64a,641.645.64a fdc2>628.62d.64a,643.645.645,639.62c.645,635.645.645,633.62e.64a,646.62c.64a
fdf0>635.644.6d2,642.644.6d2,627.644.644.647,627.643.628.631,645.62d.645.62f
fdf5>635.644.639.645,631.633.648.644,639.644.64a.647,648.633.644.645,635.644.649
fdfa>635.644.649.20.627.644.644.647.20.639.644.64a.647.20.648.633.644.645
fdfb>62c.644.20.62c.644.627.644.647,631.6cc.627.644 fe10>2c,3001 fe13>3a,3b,21,3f,3016,3017
fe31>2014,2013,5f,5f,28,29,7b,7d,3014,3015,3010,3011,300a,300b,3008,3009 fe41-fe44>300c
fe47>5b,5d,20.305,20.305,20.305,20.305,5f,5f,5f,2c,3001
fe54>3b,3a,3f,21,2014,28,29,7b,7d,3014,3015,23,26,2a,2b,2d fe64>3c,3e,3d fe68>5c,24,25,40
fe70>20.64b,640.64b,20.64c fe74>20.64d
fe76>20.64e,640.64e,20.64f,640.64f,20.650,640.650,20.651,640.651,20.652,640.652,621,622 fe82>622,623,623,624
fe86>624,625,625,626,626,626,626,627,627,628,628,628,628,629,629,62a
fe96>62a,62a,62a,62b,62b,62b,62b,62c,62c,62c,62c,62d,62d,62d,62d,62e
fea6>62e,62e,62e,62f,62f,630,630,631,631,632,632,633,633,633,633,634
feb6>634,634,634,635,635,635,635,636,636,636,636,637,637,637,637,638
fec6>638,638,638,639,639,639,639,63a,63a,63a,63a,641,641,641,641,642
fed6>642,642,642,643,643,643,643,644,644,644,644,645,645,645,645,646
fee6>646,646,646,647,647,647,647,648,648,649,649,64a,64a,64a,64a,644.622
fef6>644.622,644.623,644.623,644.625,644.625,644.627,644.627 ff01-ff20>21 ff21-ff3a>61 ff3b-ff5e>5b
ff5f>2985,2986,2e,300c,300d,3001,30fb,30f2,30a1,30a3,30a5,30a7,30a9,30e3,30e5,30e7
ff6f>30c3,30fc,30a2,30a4,30a6,30a8,30aa,30ab,30ad,30af,30b1,30b3,30b5,30b7,30b9,30bb
ff7f>30bd,30bf,30c1,30c4,30c6,30c8 ff85-ff8a>30ca ff8b>30d2,30d5,30d8,30db ff8f-ff93>30de ff94>30e4,30e6
ff96-ff9b>30e8 ff9c>30ef,30f3,3099,309a ffa1>1100,1101,11aa,1102,11ac,11ad,1103,1104,1105 ffaa-ffaf>11b0
ffb0>111a,1106,1107,1108,1121 ffb5-ffbe>1109 ffc2-ffc7>1161 ffca-ffcf>1167 ffd2-ffd7>116d
ffda>1173,1174,1175 ffe0>a2,a3,ac,20.304,a6,a5,20a9 ffe8>2502 ffe9-ffec>2190 ffed>25a0,25cb"

end CommentBot.Net.Domain
