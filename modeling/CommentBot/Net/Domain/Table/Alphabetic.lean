/-!
# Mapped letters
-/

namespace CommentBot.Net.Domain

/-- What the letters of the alphabets below U+2000 are replaced by in domain names, from Unicode 17. -/
def alphabeticMapping : String :=
  "41-5a>61 a0>20 a8>20.308 aa>61 af>20.304 b2>32,33,20.301,3bc b8>20.327,31,6f
bc>31.2044.34,31.2044.32,33.2044.34 c0-d6>e0 d8-de>f8 100-12e/2>101 130>69.307 132>69.6a,69.6a,135 136>137
139>13a 13b>13c 13d>13e 13f>6c.b7,6c.b7 141-147/2>142 149>2bc.6e 14a-176/2>14b 178>ff,17a 17b>17c 17d>17e
17f>73 181>253,183 184>185 186>254,188 189>256,257,18c 18e>1dd,259,25b,192 193>260,263 196>269,268,199
19c>26f,272 19f>275,1a1 1a2>1a3 1a4>1a5 1a6>280,1a8 1a9>283 1ac>1ad 1ae>288,1b0 1b1>28a,28b,1b4 1b5>1b6
1b7>292,1b9 1bc>1bd 1c4>64.17e,64.17e,64.17e,6c.6a,6c.6a,6c.6a,6e.6a,6e.6a,6e.6a 1cd-1db/2>1ce 1de-1ee/2>1df
1f1>64.7a,64.7a,64.7a,1f5 1f6>195,1bf 1f8-21e/2>1f9 220>19e 222-232/2>223 23a>2c65,23c 23d>19a,2c66 241>242
243>180,289,28c 246-24e/2>247 2b0>68,266,6a,72,279,27b,281,77,79
2d8>20.306,20.307,20.30a,20.328,20.303,20.30b 2e0>263,6c,73,78,295 340>300,301 343>313,308.301,3b9 370>371
372>373 374>2b9 376>377 37a>20.3b9 37e>3b,3f3 384>20.301,20.308.301,3ac,b7,3ad,3ae,3af 38c>3cc 38e>3cd,3ce
391-3a1>3b1 3a3-3ab>3c3 3cf>3d7,3b2,3b8,3c5,3cd,3cb,3c6,3c0 3d8-3ee/2>3d9 3f0>3ba,3c1,3c3 3f4>3b8,3b5
3f7>3f8 3f9>3c3,3fb 3fd>37b,37c,37d 400-40f>450 410-42f>430 460-480/2>461 48a-4be/2>48b 4c0>4cf
4c1-4cd/2>4c2 4d0-52e/2>4d1 531-556>561 587>565.582 675>627.674,648.674,6c7.674,64a.674
958>915.93c,916.93c,917.93c,91c.93c,921.93c,922.93c,92b.93c,92f.93c 9dc>9a1.9bc,9a2.9bc 9df>9af.9bc
a33>a32.a3c a36>a38.a3c a59>a16.a3c,a17.a3c,a1c.a3c a5e>a2b.a3c b5c>b21.b3c,b22.b3c e33>e4d.e32 eb3>ecd.eb2
edc>eab.e99,eab.ea1 f0c>f0b f43>f42.fb7 f4d>f4c.fb7 f52>f51.fb7 f57>f56.fb7 f5c>f5b.fb7 f69>f40.fb5
f73>f71.f72 f75>f71.f74,fb2.f80,fb2.f71.f80,fb3.f80,fb3.f71.f80 f81>f71.f80 f93>f92.fb7 f9d>f9c.fb7
fa2>fa1.fb7 fa7>fa6.fb7 fac>fab.fb7 fb9>f90.fb5 10a0-10c5>2d00 10c7>2d27 10cd>2d2d 10fc>10dc 13f8-13fd>13f0
1c80>432,434,43e,441,442,442,44a,463,a64b,1c8a 1c90-1cba>10d0 1cbd>10fd,10fe,10ff 1d2c>61,e6,62
1d30>64,65,1dd 1d33-1d3a>67 1d3c>6f,223,70,72,74,75,77,61,250,251,1d02,62,64,65,259,25b 1d4c>25c,67
1d4f>6b,6d,14b,6f,254,1d16,1d17,70,74,75,1d1d,26f,76,1d25,3b2,3b3
1d5f>3b4,3c6,3c7,69,72,75,76,3b2,3b3,3c1,3c6,3c7 1d78>43d
1d9b>252,63,255,f0,25c,66,25f,261,265,268,269,26a,1d7b,29d,26d,1d85 1dab>29f,271,270 1dae-1db1>272
1db2>278,282,283,1ab,289,28a,1d1c,28b,28c,7a,290,291,292,3b8 1e00-1e94/2>1e01 1e9a>61.2be,1e61 1e9e>df
1ea0-1efe/2>1ea1 1f08-1f0f>1f00 1f18-1f1d>1f10 1f28-1f2f>1f20 1f38-1f3f>1f30 1f48-1f4d>1f40 1f59-1f5f/2>1f51
1f68-1f6f>1f60 1f71>3ac 1f73>3ad 1f75>3ae 1f77>3af 1f79>3cc 1f7b>3cd 1f7d>3ce
1f80>1f00.3b9,1f01.3b9,1f02.3b9,1f03.3b9,1f04.3b9,1f05.3b9,1f06.3b9,1f07.3b9,1f00.3b9
1f89>1f01.3b9,1f02.3b9,1f03.3b9,1f04.3b9,1f05.3b9,1f06.3b9,1f07.3b9
1f90>1f20.3b9,1f21.3b9,1f22.3b9,1f23.3b9,1f24.3b9,1f25.3b9,1f26.3b9,1f27.3b9,1f20.3b9
1f99>1f21.3b9,1f22.3b9,1f23.3b9,1f24.3b9,1f25.3b9,1f26.3b9,1f27.3b9
1fa0>1f60.3b9,1f61.3b9,1f62.3b9,1f63.3b9,1f64.3b9,1f65.3b9,1f66.3b9,1f67.3b9,1f60.3b9
1fa9>1f61.3b9,1f62.3b9,1f63.3b9,1f64.3b9,1f65.3b9,1f66.3b9,1f67.3b9 1fb2>1f70.3b9,3b1.3b9,3ac.3b9
1fb7>1fb6.3b9,1fb0,1fb1,1f70,3ac,3b1.3b9,20.313,3b9,20.313,20.342,20.308.342,1f74.3b9 1fc3>3b7.3b9,3ae.3b9
1fc7>1fc6.3b9,1f72,3ad,1f74,3ae,3b7.3b9,20.313.300,20.313.301,20.313.342 1fd3>390 1fd8>1fd0,1fd1,1f76,3af
1fdd>20.314.300,20.314.301,20.314.342 1fe3>3b0 1fe8>1fe0,1fe1,1f7a,3cd,1fe5,20.308.300,20.308.301,60
1ff2>1f7c.3b9,3c9.3b9,3ce.3b9 1ff7>1ff6.3b9,1f78,3cc,1f7c,3ce,3c9.3b9,20.301,20.314"

end CommentBot.Net.Domain
